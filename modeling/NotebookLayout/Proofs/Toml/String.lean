import NotebookLayout.Toml.StringReader
import NotebookLayout.Toml.StringWriter

/-!
# TOML strings are read back

What is written of a text is read as this text, in every style that can take it. Between quotation
marks any character can be written, one by one. A delimiter within a threefold style needs care: a
text may end in up to two of them, which then stand in front of the closing delimiter, and nowhere
may three of them be in a row.

Main statement: `readString?_writeString`.
-/

namespace NotebookLayout.Toml

/-! ## Digits -/

/-- A hexadecimal digit is read back. -/
theorem digit?_upperHexDigit {d : Nat} (hd : d < 16) : digit? 16 (upperHexDigit d) = some d := by
  have hall : ∀ d < 16, digit? 16 (upperHexDigit d) = some d := by decide
  exact hall d hd

/-- A character is found by its code point. -/
theorem ofCodePoint?_toNat (c : Char) : ofCodePoint? c.toNat = some c := by
  have hvalid : c.toNat.isValidChar := c.valid
  rw [ofCodePoint?, if_pos hvalid, Char.ofNat_toNat]

/-- Control characters have small code points. -/
theorem toNat_lt_of_isControl {c : Char} (h : isControl c = true) : c.toNat < 128 := by
  simp only [isControl, Bool.or_eq_true, Bool.and_eq_true, decide_eq_true_eq] at h
  rcases h with ⟨h, -⟩ | rfl
  · omega
  · decide

namespace StringStyle

variable {style : StringStyle} {c : Char} {t u rest : Text}

/-! ## One character -/

/-- A step that goes on puts its piece in front of what is read later. -/
theorem readFrom?_of_go {mode : StringMode} (piece : Text) (next : StringMode)
    (hstep : style.step mode c u = .go piece next)
    (h : style.readFrom? next u = some (t, rest)) :
    style.readFrom? mode (c :: u) = some (piece ++ t, rest) := by
  simp only [readFrom?, hstep, h, Option.map_some]

/-- A character that stands for itself. -/
theorem readFrom?_cons (hquote : c ≠ style.quote) (hslash : c = '\\' → style.literal = true)
    (hfeed : c = '\n' → style.multiline = true) (hcontrol : isControl c = true → c = '\n')
    (h : style.readFrom? .plain u = some (t, rest)) :
    style.readFrom? .plain (c :: u) = some (c :: t, rest) := by
  refine readFrom?_of_go [c] .plain ?_ h
  have hreturn : c ≠ '\r' := by
    rintro rfl
    exact absurd (hcontrol rfl) (by decide)
  have hescape : ¬(c = '\\' ∧ style.literal = false) := fun hc => by simp [hslash hc.1] at hc
  rw [step, stepPlain, if_neg hquote, if_neg hescape]
  by_cases hc : c = '\n'
  · rw [if_pos (Or.inl hc), if_pos (hfeed hc)]
  · rw [if_neg (by simp [hc, hreturn]), if_neg fun hcontrol' => hc (hcontrol hcontrol')]

/-- Where there are escapes, a backslash begins one. -/
theorem step_backslash (hstyle : style.literal = false) (u : Text) :
    style.step .plain '\\' u = .go [] .escape := by
  have hquote : '\\' ≠ style.quote := by simp [quote, hstyle]
  rw [step, stepPlain, if_neg hquote, if_pos ⟨rfl, hstyle⟩]

/-- A letter after a backslash. -/
theorem readFrom?_escaped {e : Char} (hstyle : style.literal = false) (he : escaped? e = some c)
    (h : style.readFrom? .plain u = some (t, rest)) :
    style.readFrom? .plain ('\\' :: e :: u) = some (c :: t, rest) := by
  have hescape : style.readFrom? .escape (e :: u) = some (c :: t, rest) :=
    readFrom?_of_go [c] .plain (by rw [step, stepEscape, he]) h
  exact readFrom?_of_go [] .escape (step_backslash hstyle _) hescape

/-- A digit of a code point with more to come. -/
theorem readFrom?_digit {left value d : Nat} (hd : digit? 16 c = some d)
    (h : style.readFrom? (.codePoint (left + 1) (value * 16 + d)) u = some (t, rest)) :
    style.readFrom? (.codePoint (left + 2) value) (c :: u) = some (t, rest) := by
  refine readFrom?_of_go [] (.codePoint (left + 1) (value * 16 + d)) ?_ h
  simp [step, stepCodePoint, hd]

/-- Four digits after a backslash and a letter. -/
theorem readFrom?_codePoint (hstyle : style.literal = false) (hc : c.toNat < 128)
    (h : style.readFrom? .plain u = some (t, rest)) :
    style.readFrom? .plain ('\\' :: 'u' :: '0' :: '0' :: upperHexDigit (c.toNat / 16) ::
      upperHexDigit (c.toNat % 16) :: u) = some (c :: t, rest) := by
  have hzero : digit? 16 '0' = some 0 := by decide
  have hhigh := digit?_upperHexDigit (d := c.toNat / 16) (by omega)
  have hlow := digit?_upperHexDigit (d := c.toNat % 16) (by omega)
  -- The value that the digits add up to, in the form in which the reader adds them up.
  have hchar : ofCodePoint? ((((0 * 16 + 0) * 16 + 0) * 16 + c.toNat / 16) * 16 + c.toNat % 16) =
      some c := by
    rw [show (((0 * 16 + 0) * 16 + 0) * 16 + c.toNat / 16) * 16 + c.toNat % 16 = c.toNat by omega,
      ofCodePoint?_toNat]
  have hlast : style.readFrom? (.codePoint 1 (((0 * 16 + 0) * 16 + 0) * 16 + c.toNat / 16))
      (upperHexDigit (c.toNat % 16) :: u) = some (c :: t, rest) :=
    readFrom?_of_go [c] .plain (by simp only [step, stepCodePoint, hlow, hchar]; rfl) h
  have hdigits := readFrom?_digit hzero (readFrom?_digit hzero (readFrom?_digit hhigh hlast))
  refine readFrom?_of_go [] .escape (step_backslash hstyle _) ?_
  refine readFrom?_of_go [] (.codePoint 4 0) ?_ hdigits
  simp [step, stepEscape, escaped?]

/-- Any character, written between quotation marks. -/
theorem readFrom?_escapeChar (hstyle : style.literal = false)
    (h : style.readFrom? .plain u = some (t, rest)) :
    style.readFrom? .plain (escapeChar c ++ u) = some (c :: t, rest) := by
  unfold escapeChar
  split
  -- Seven characters have a letter of their own.
  iterate 7 exact readFrom?_escaped hstyle rfl h
  next hfeed _ _ hquote hslash =>
    split
    next hcontrol => exact readFrom?_codePoint hstyle (toNat_lt_of_isControl hcontrol) h
    next hcontrol =>
      refine readFrom?_cons ?_ ?_ ?_ ?_ h
      · simpa [quote, hstyle] using hquote
      · exact fun hc => absurd hc hslash
      · exact fun hc => absurd hc hfeed
      · exact fun hc => absurd hc hcontrol

/-! ## Delimiters -/

/-- Text of several lines has a threefold delimiter. -/
theorem delimiter_of_multiline (hlines : style.multiline = true) :
    style.delimiter = List.replicate 3 style.quote := by
  simp [delimiter, hlines]

/-- Text on one line has a single quote on each side. -/
theorem delimiter_of_line (hline : style.multiline = false) : style.delimiter = [style.quote] := by
  simp [delimiter, hline]

/-- Text on one line begins right behind its delimiter. -/
theorem lead_of_line (hline : style.multiline = false) (t : Text) : style.lead t = [] := by
  simp [lead, hline]

/-- A simple delimiter ends the string. -/
theorem readFrom?_delimiter (hstyle : style.multiline = false) :
    style.readFrom? .plain (style.quote :: rest) = some ([], rest) := by
  simp [readFrom?, step, stepPlain, stepQuote, hstyle]

/-- A threefold delimiter ends the string, and up to two of its characters in front of it belong to
the text. -/
theorem readFrom?_delimiters {n : Nat} (hstyle : style.multiline = true) (hn : n ≤ 2)
    (hrest : rest.head? ≠ some style.quote) :
    style.readFrom? .plain (List.replicate (n + 3) style.quote ++ rest) =
      some (List.replicate n style.quote, rest) := by
  have hextra : ((List.replicate n style.quote ++ rest).take 2).takeWhile (· = style.quote) =
      List.replicate n style.quote := by
    obtain rfl | rfl | rfl : n = 0 ∨ n = 1 ∨ n = 2 := by omega
    all_goals
      cases rest with
      | nil => simp
      | cons c rest =>
        have hc : c ≠ style.quote := by simpa using hrest
        simp [hc]
  -- The reader finds the delimiter at once, and looks on for what stands in front of its end.
  have hstep : style.step .plain style.quote (List.replicate (n + 2) style.quote ++ rest) =
      .close (List.replicate n style.quote) rest := by
    have hsplit : List.replicate (n + 2) style.quote ++ rest =
        style.quote :: style.quote :: (List.replicate n style.quote ++ rest) := by
      simp [List.replicate_succ]
    rw [step, stepPlain, if_pos rfl, stepQuote, if_pos hstyle, hsplit, if_pos (by rfl)]
    simp only [List.drop_succ_cons, List.drop_zero, hextra, List.length_replicate,
      List.drop_left' List.length_replicate]
  rw [List.replicate_succ, List.cons_append, readFrom?, hstep]

/-- A character of the delimiter within the text: `body` is written of what the text goes on with,
and does not begin with two of them. At the end of the text, it counts towards those in front of the
delimiter. -/
theorem readFrom?_quote {body : Text} (hstyle : style.multiline = true)
    (htwo : body.take 2 ≠ [style.quote, style.quote])
    (hlast : body = [] ∨ body = [style.quote] → t = body) (hrest : rest.head? ≠ some style.quote)
    (h : style.readFrom? .plain (body ++ (List.replicate 3 style.quote ++ rest)) = some (t, rest)) :
    style.readFrom? .plain (style.quote :: (body ++ (List.replicate 3 style.quote ++ rest))) =
      some (style.quote :: t, rest) := by
  have hgo : (body ++ (List.replicate 3 style.quote ++ rest)).take 2 ≠ [style.quote, style.quote] →
      style.readFrom? .plain (style.quote :: (body ++ (List.replicate 3 style.quote ++ rest))) =
        some (style.quote :: t, rest) := fun htake => by
    refine readFrom?_of_go [style.quote] .plain ?_ h
    rw [step, stepPlain, if_pos rfl, stepQuote, if_pos hstyle, if_neg htake]
  -- With nothing, or one more, between it and the delimiter, it is read together with the
  -- delimiter.
  match body with
  | [] =>
    rw [hlast (Or.inl rfl)]
    exact readFrom?_delimiters hstyle (n := 1) (by omega) hrest
  | [c] =>
    by_cases hc : c = style.quote
    · subst hc
      rw [hlast (Or.inr rfl)]
      exact readFrom?_delimiters hstyle (n := 2) (by omega) hrest
    · exact hgo (by simp [hc])
  | c :: d :: body => exact hgo htwo

/-! ## Bodies -/

/-- On one line, with escapes. -/
theorem readFrom?_flatMap_escapeChar (hstyle : style.literal = false)
    (hline : style.multiline = false) (t rest : Text) :
    style.readFrom? .plain (t.flatMap escapeChar ++ style.quote :: rest) = some (t, rest) := by
  induction t with
  | nil => exact readFrom?_delimiter hline
  | cons c t ih =>
    rw [List.flatMap_cons, List.append_assoc]
    exact readFrom?_escapeChar hstyle ih

/-- On one line, without escapes. -/
theorem readFrom?_literal (hstyle : style.literal = true) (hline : style.multiline = false)
    (hescape : needsEscape t = false) (hquote : style.quote ∉ t) (hfeed : '\n' ∉ t) :
    style.readFrom? .plain (t ++ style.quote :: rest) = some (t, rest) := by
  induction t with
  | nil => exact readFrom?_delimiter hline
  | cons c t ih =>
    simp only [List.mem_cons, not_or] at hquote hfeed
    simp only [needsEscape, List.any_cons, Bool.or_eq_false_iff] at hescape
    refine readFrom?_cons (Ne.symm hquote.1) (fun _ => hstyle) ?_ ?_ (ih hescape.2 hquote.2 hfeed.2)
    · exact fun hc => absurd hc.symm hfeed.1
    · simpa using hescape.1

/-- The rest of a text has no more quotes in a row. -/
theorem hasThreefold_tail {q : Char} (h : hasThreefold q (c :: t) = false) :
    hasThreefold q t = false := by
  match t with
  | [] => rfl
  | [_] => rfl
  | _ :: _ :: _ => simp only [hasThreefold, Bool.or_eq_false_iff] at h; exact h.2

/-- Between threefold apostrophes, without three of them in a row. -/
theorem readFrom?_literalLines (hstyle : style.literal = true) (hlines : style.multiline = true)
    (hescape : needsEscape t = false) (hthree : hasThreefold style.quote t = false)
    (hrest : rest.head? ≠ some style.quote) :
    style.readFrom? .plain (t ++ (List.replicate 3 style.quote ++ rest)) = some (t, rest) := by
  induction t with
  | nil => exact readFrom?_delimiters hlines (Nat.zero_le 2) hrest
  | cons c t ih =>
    simp only [needsEscape, List.any_cons, Bool.or_eq_false_iff] at hescape
    have hread := ih hescape.2 (hasThreefold_tail hthree)
    by_cases hc : c = style.quote
    · subst hc
      refine readFrom?_quote hlines ?_ (fun _ => rfl) hrest hread
      match t with
      | [] => simp
      | [_] => simp
      | d :: e :: _ =>
        simp only [hasThreefold, Bool.or_eq_false_iff] at hthree
        simpa using hthree.1
    · exact readFrom?_cons hc (fun _ => hstyle) (fun _ => hlines) (by simpa using hescape.1) hread

/-- No character is written with a quotation mark or a control at its start. -/
theorem exists_escapeChar_eq_cons (c : Char) :
    ∃ d body, escapeChar c = d :: body ∧ d ≠ '"' ∧ isControl d = false := by
  unfold escapeChar
  split
  iterate 7 exact ⟨'\\', _, rfl, by decide, by decide⟩
  next hquote _ =>
    split
    next => exact ⟨'\\', _, rfl, by decide, by decide⟩
    next hcontrol => exact ⟨c, _, rfl, hquote, by simpa using hcontrol⟩

/-- Where a text begins with a quotation mark, what is written of it does, too, but not after two of
them; nowhere else does it. -/
theorem escapeLines_cons_cases (run : Nat) (c : Char) (t : Text) :
    (c = '"' ∧ run ≠ 2 ∧ escapeLines run (c :: t) = '"' :: escapeLines (run + 1) t) ∨
      ∃ d body, escapeLines run (c :: t) = d :: body ∧ d ≠ '"' := by
  by_cases hquote : c = '"'
  · by_cases hrun : run = 2
    · exact Or.inr ⟨'\\', _, by rw [escapeLines, if_pos hquote, if_pos hrun], by decide⟩
    · exact Or.inl ⟨hquote, hrun, by rw [escapeLines, if_pos hquote, if_neg hrun]⟩
  · refine Or.inr ?_
    rw [escapeLines, if_neg hquote]
    split
    next => exact ⟨'\n', _, rfl, by decide⟩
    next =>
      obtain ⟨d, body, hchar, hd, -⟩ := exists_escapeChar_eq_cons c
      exact ⟨d, _, by rw [hchar, List.cons_append], hd⟩

/-- Something is written of every character. -/
theorem eq_nil_of_escapeLines {run : Nat} (h : escapeLines run t = []) : t = [] := by
  cases t with
  | nil => rfl
  | cons c t =>
    rcases escapeLines_cons_cases run c t with ⟨-, -, hcons⟩ | ⟨d, body, hcons, -⟩ <;>
      simp [hcons] at h

/-- Not two more quotation marks stand after one. -/
theorem take_escapeLines_ne {run : Nat} (hpos : 0 < run) (hrun : run ≤ 2) :
    (escapeLines run t).take 2 ≠ ['"', '"'] := by
  cases t with
  | nil => simp [escapeLines]
  | cons c t =>
    rcases escapeLines_cons_cases run c t with ⟨-, hne, hcons⟩ | ⟨d, body, hcons, hd⟩
    · obtain rfl : run = 1 := by omega
      rw [hcons]
      cases t with
      | nil => simp [escapeLines]
      | cons e t =>
        obtain ⟨-, hne, -⟩ | ⟨f, body, hcons', hf⟩ := escapeLines_cons_cases 2 e t
        · exact absurd rfl hne
        · simp [hcons', hf]
    · simp [hcons, hd]

theorem eq_escapeLines_of_last {run : Nat}
    (h : escapeLines run t = [] ∨ escapeLines run t = ['"']) : t = escapeLines run t := by
  cases t with
  | nil => rfl
  | cons c t =>
    rcases escapeLines_cons_cases run c t with ⟨rfl, -, hcons⟩ | ⟨d, body, hcons, hd⟩
    · rw [hcons] at h ⊢
      have hnil : escapeLines (run + 1) t = [] := by simpa using h
      rw [hnil, eq_nil_of_escapeLines hnil]
    · simp [hcons, hd] at h

/-- Between threefold quotation marks, after up to two of them within the text. -/
theorem readFrom?_escapeLines (hstyle : style.literal = false) (hlines : style.multiline = true)
    {run : Nat} (hrun : run ≤ 2) (hrest : rest.head? ≠ some style.quote) :
    style.readFrom? .plain (escapeLines run t ++ (List.replicate 3 style.quote ++ rest)) =
      some (t, rest) := by
  have hquote : style.quote = '"' := by simp [quote, hstyle]
  induction t generalizing run with
  | nil => exact readFrom?_delimiters hlines (Nat.zero_le 2) hrest
  | cons c t ih =>
    rw [escapeLines]
    split
    next hc =>
      subst hc
      -- The third quotation mark in a row is escaped; one before it is written as it is.
      split
      next => exact readFrom?_escaped hstyle rfl (ih (by omega))
      next hlt =>
        rw [List.cons_append, ← hquote]
        refine readFrom?_quote hlines ?_ ?_ hrest (ih (by omega))
        · rw [hquote]
          exact take_escapeLines_ne (Nat.succ_pos run) (by omega)
        · rw [hquote]
          exact eq_escapeLines_of_last
    next hc =>
      split
      next hfeed =>
        subst hfeed
        exact readFrom?_cons (by simp [hquote]) (by simp) (fun _ => hlines) (fun _ => rfl)
          (ih (by omega))
      next =>
        rw [List.append_assoc]
        exact readFrom?_escapeChar hstyle (ih (by omega))

/-! ## Whole strings -/

/-- The style can take the text: only a style with escapes takes all texts. -/
def Takes (style : StringStyle) (t : Text) : Prop :=
  style.literal = true → needsEscape t = false ∧
    if style.multiline then hasThreefold style.quote t = false else style.quote ∉ t ∧ '\n' ∉ t

/-- A text on one line is not written with a control at its start, in a threefold style. -/
theorem isControl_head_body (htakes : style.Takes t) (hlines : style.multiline = true)
    (hfeed : '\n' ∉ t) : ∀ c ∈ (style.body t).head?, isControl c = false := by
  cases t with
  | nil => simp [body, hlines, escapeLines]
  | cons c t =>
    simp only [List.mem_cons, not_or] at hfeed
    cases hliteral : style.literal with
    | true =>
      have hescape := (htakes hliteral).1
      simp only [needsEscape, List.any_cons, Bool.or_eq_false_iff] at hescape
      simpa [body, hliteral, Ne.symm hfeed.1] using hescape.1
    | false =>
      simp only [body, hliteral, hlines, escapeLines, Ne.symm hfeed.1, Bool.false_eq_true, if_true,
        if_false]
      split
      next => simp [isControl]
      next =>
        obtain ⟨d, escape, hchar, -, hd⟩ := exists_escapeChar_eq_cons c
        simpa [hchar] using hd

/-- Only a line end is dropped. -/
theorem dropLineEnd_of_head (h : ∀ c ∈ t.head?, isControl c = false) : dropLineEnd t = t := by
  unfold dropLineEnd
  split
  · exact absurd (h _ rfl) (by decide)
  · exact absurd (h _ rfl) (by decide)
  · rfl

/-- The line end between the opening delimiter and the text is passed over, and no other. -/
theorem dropLineEnd_lead (htakes : style.Takes t) (hlines : style.multiline = true) :
    dropLineEnd (style.lead t ++ (style.body t ++ (style.delimiter ++ rest))) =
      style.body t ++ (style.delimiter ++ rest) := by
  by_cases hfeed : '\n' ∈ t
  · simp [lead, hlines, hfeed, dropLineEnd]
  · have hlead : style.lead t = [] := by simp [lead, hfeed]
    rw [hlead, List.nil_append]
    refine dropLineEnd_of_head fun c hc => ?_
    cases hbody : style.body t with
    | nil =>
      obtain rfl : style.quote = c := by simpa [hbody, delimiter, hlines] using hc
      cases hliteral : style.literal <;> simp [quote, hliteral, isControl]
    | cons d body =>
      refine isControl_head_body htakes hlines hfeed c ?_
      rw [hbody] at hc ⊢
      exact hc

/-- Reads a text, its opening delimiter passed. -/
theorem read?_body (htakes : style.Takes t) (hrest : rest.head? ≠ some style.quote) :
    style.read? (style.lead t ++ (style.body t ++ (style.delimiter ++ rest))) = some (t, rest) := by
  cases hlines : style.multiline with
  | true =>
    rw [read?, if_pos hlines, dropLineEnd_lead htakes hlines, delimiter_of_multiline hlines, body]
    cases hliteral : style.literal with
    | true =>
      obtain ⟨hescape, hthree⟩ := htakes hliteral
      rw [if_pos hlines] at hthree
      exact readFrom?_literalLines hliteral hlines hescape hthree hrest
    | false =>
      simp only [hlines, Bool.false_eq_true, if_false, if_true]
      exact readFrom?_escapeLines hliteral hlines (Nat.zero_le 2) hrest
  | false =>
    rw [read?, lead_of_line hlines, delimiter_of_line hlines, body]
    simp only [hlines, Bool.false_eq_true, if_false, List.nil_append, List.cons_append]
    cases hliteral : style.literal with
    | true =>
      obtain ⟨hescape, hplain⟩ := htakes hliteral
      simp only [hlines, Bool.false_eq_true, if_false] at hplain
      exact readFrom?_literal hliteral hlines hescape hplain.1 hplain.2
    | false => exact readFrom?_flatMap_escapeChar hliteral hlines t rest

end StringStyle

/-- A text is written in a style that can take it. -/
theorem styleOf_takes (t : Text) : (styleOf t).Takes t := by
  unfold styleOf StringStyle.Takes
  split
  · simp
  split
  · simp_all [StringStyle.quote]
  split
  · simp
  split
  · simp_all [StringStyle.quote]
  · simp

/-! ## The opening delimiter -/

section

open StringStyle

variable {style : StringStyle} {t rest : Text}

/-- A threefold delimiter tells the style. -/
theorem readString?_threefold (hlines : style.multiline = true) :
    readString? (style.delimiter ++ t) = style.read? t := by
  obtain ⟨literal, multiline⟩ := style
  obtain rfl : multiline = true := hlines
  cases literal <;> rfl

/-- A simple delimiter does if no two more follow. -/
theorem readString?_simple (hline : style.multiline = false)
    (htwo : t.take 2 ≠ [style.quote, style.quote]) :
    readString? (style.delimiter ++ t) = style.read? t := by
  obtain ⟨literal, multiline⟩ := style
  obtain rfl : multiline = false := hline
  have hne : ∀ u, t ≠ quote ⟨literal, false⟩ :: quote ⟨literal, false⟩ :: u := by
    rintro u rfl
    exact htwo rfl
  cases literal <;> simp only [delimiter, quote, Bool.false_eq_true, if_false, if_true] at hne ⊢
  · exact readString?.eq_3 t hne
  · exact readString?.eq_4 t hne

/-- No two delimiters follow the opening one of a text on one line. -/
theorem take_body_ne (htakes : style.Takes t) (hline : style.multiline = false)
    (hrest : rest.head? ≠ some style.quote) :
    (style.body t ++ (style.delimiter ++ rest)).take 2 ≠ [style.quote, style.quote] := by
  cases t with
  | nil =>
    have hbody : style.body [] = [] := by simp [body, hline]
    rw [hbody, delimiter_of_line hline]
    cases rest with
    | nil => simp
    | cons c rest => simpa using hrest
  | cons c t =>
    cases hliteral : style.literal with
    | true =>
      have hplain := (htakes hliteral).2
      simp only [hline, Bool.false_eq_true, if_false, List.mem_cons, not_or] at hplain
      simp [body, hliteral, Ne.symm hplain.1.1]
    | false =>
      obtain ⟨d, escape, hchar, hd, -⟩ := exists_escapeChar_eq_cons c
      simp [body, hliteral, hline, hchar, quote, hd]

/-- Reads a text that is written in a style that can take it. -/
theorem readString?_write (htakes : style.Takes t) (hrest : rest.head? ≠ some style.quote) :
    readString? (style.write t ++ rest) = some (t, rest) := by
  simp only [write, List.append_assoc]
  cases hlines : style.multiline with
  | true => rw [readString?_threefold hlines, read?_body htakes hrest]
  | false =>
    have hread := read?_body htakes hrest
    rw [lead_of_line hlines, List.nil_append] at hread ⊢
    rw [readString?_simple hlines (take_body_ne htakes hlines hrest), hread]

/-- What is written of a text is read as this text. -/
theorem readString?_writeString (t : Text) (hquote : rest.head? ≠ some '"')
    (hapostrophe : rest.head? ≠ some '\'') :
    readString? (writeString t ++ rest) = some (t, rest) := by
  refine readString?_write (styleOf_takes t) ?_
  unfold quote
  split
  · exact hapostrophe
  · exact hquote

/-- A string begins with a quotation mark or an apostrophe. -/
theorem head?_writeString (t : Text) :
    (writeString t).head? = some '"' ∨ (writeString t).head? = some '\'' := by
  have hhead : (writeString t).head? = some (styleOf t).quote := by
    cases hlines : (styleOf t).multiline <;> simp [writeString, write, delimiter, hlines]
  rw [hhead]
  cases hliteral : (styleOf t).literal <;> simp [quote, hliteral]

end

end NotebookLayout.Toml
