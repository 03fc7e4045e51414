import NotebookLayout.Proofs.Document.LineEnds
import NotebookLayout.Proofs.Token.Tokens

/-!
# Lexemes of texts with carriage returns at their line ends

A carriage return put in front of every line feed goes into the line ends, and nowhere else. There
is one exception: an unmatched double quote takes a backslash with any character after it but a line
feed, so at the end of a line it takes the backslash only if a carriage return comes next.

- `dropQuoted_cases`: what a quoted run stops at;
- `next_crlf`: the first lexeme stays what it was, unless it is such a quote;
- `Returned`: what becomes of lexemes altogether;
- `returned_ofText`: and so it does of those of a text;
- `Returned.eq_map`: without such a quote, the lexemes differ in their line ends alone;
- `Returned.leafCount_le`: with one, fewer of them make leaves.
-/

namespace NotebookLayout.Lexeme

open Text

/-! ## The first lexeme -/

/-- Runs of characters that hold no line end are not changed. -/
theorem takeWhile_crlf {p : Char → Bool} (hfeed : p '\n' = false) (hreturn : p '\r' = false)
    (t : Text) :
    t.crlf.takeWhile p = t.takeWhile p ∧ t.crlf.dropWhile p = crlf (t.dropWhile p) := by
  induction t with
  | nil => exact ⟨rfl, rfl⟩
  | cons c t ih =>
    by_cases hc : c = '\n'
    · simp [hc, hfeed, hreturn]
    · rw [crlf_cons_of_ne hc]
      by_cases hp : p c = true
      · simp [hp, ih]
      · simp [hp, crlf_cons_of_ne hc]

/-- A quoted run stops at the end of the text, at a backslash that ends the text or a line, or at a
character that is never part of one. -/
theorem dropQuoted_cases (t : Text) :
    dropQuoted t = [] ∨ dropQuoted t = ['\\'] ∨ (∃ r, dropQuoted t = '\\' :: '\n' :: r) ∨
      ∃ c r, dropQuoted t = c :: r ∧ (c = '"' ∨ c = '\r' ∨ c = '\n') := by
  fun_induction dropQuoted t with
  | case1 t => exact Or.inr (Or.inr (Or.inl ⟨t, rfl⟩))
  | case2 c t hc ih => exact ih
  | case3 c t hslash hplain ih => exact ih
  | case4 c t hslash hplain =>
    by_cases hc : c = '\\'
    · -- A backslash in front of anything would not have been reached here.
      subst hc
      cases t with
      | nil => exact Or.inr (Or.inl rfl)
      | cons d t => exact (hslash d t rfl rfl).elim
    · refine Or.inr (Or.inr (Or.inr ⟨c, t, rfl, ?_⟩))
      simp only [isPlainQuoted, Bool.and_eq_true, decide_eq_true_iff] at hplain
      tauto
  | case5 => exact Or.inl rfl

/-- What a quoted run leaves is the end of the text. -/
theorem dropQuoted_isSuffix (t : Text) : dropQuoted t <:+ t :=
  ⟨takeQuoted t, takeQuoted_append_dropQuoted t⟩

/-- The quoted run is read again, and then what follows it in the changed text. -/
theorem quoted_crlf (t : Text) :
    takeQuoted t.crlf = takeQuoted t ++ takeQuoted (dropQuoted t).crlf ∧
      dropQuoted t.crlf = dropQuoted (dropQuoted t).crlf := by
  have hsplit : t.crlf = takeQuoted t ++ (dropQuoted t).crlf := by
    conv_lhs => rw [← takeQuoted_append_dropQuoted t]
    rw [crlf_append, crlf_of_notMem (newline_notMem_takeQuoted t)]
  rw [hsplit]
  exact quoted_takeQuoted_append t (dropQuoted t).crlf

/-- A quotation stays what it is unless it stops at a backslash at the end of its line. -/
theorem quotation_crlf {t : Text} (ht : '\r' ∉ t)
    (hstop : ∀ r, dropQuoted t ≠ '\\' :: '\n' :: r) :
    quotation t.crlf = ((quotation t).1, (quotation t).2.crlf) := by
  obtain ⟨htake, hdrop⟩ := quoted_crlf t
  rw [quotation, quotation, htake, hdrop]
  rcases dropQuoted_cases t with h | h | ⟨r, h⟩ | ⟨c, r, h, rfl | rfl | rfl⟩
  · simp [h, takeQuoted, dropQuoted]
  · simp [h, crlf, takeQuoted, dropQuoted, isPlainQuoted]
  · exact absurd h (hstop r)
  · have hc : crlf ('"' :: r) = '"' :: crlf r := crlf_cons_of_ne (by decide) r
    simp [h, hc, takeQuoted, dropQuoted, isPlainQuoted]
  · exact absurd ((dropQuoted_isSuffix t).mem (by simp [h])) ht
  · simp [h, takeQuoted, dropQuoted, isPlainQuoted]

/-- The lexeme with a carriage return in front of its line feed. -/
def withReturn (x : Lexeme) : Lexeme := { x with text := x.text.crlf }

/-- Only line ends get a carriage return. -/
theorem Lawful.withReturn_eq {x : Lexeme} (h : x.Lawful) (hkind : x.kind ≠ .newline) :
    x.withReturn = x := by
  have hmem : '\n' ∉ x.text := fun hmem => hkind (h.kind_eq_newline hmem)
  rw [withReturn, crlf_of_notMem hmem]

/-- Apart from an unmatched quote in front of a backslash at a line's end, the first lexeme stays
what it was, and what follows it too. -/
theorem next_crlf {c : Char} {t : Text} (ht : '\r' ∉ c :: t) (hc : c ≠ '\n')
    (hstop : c = '"' → ∀ r, dropQuoted t ≠ '\\' :: '\n' :: r) :
    next c t.crlf = ((next c t).1, crlf (next c t).2) := by
  rw [List.mem_cons, not_or] at ht
  cases start c with
  | spacing h =>
    obtain ⟨htake, hdrop⟩ := takeWhile_crlf (p := isSpacing) (by decide) (by decide) t
    rw [next_spacing h, next_spacing h, htake, hdrop]
  | newline h => exact absurd h hc
  | quote h =>
    subst h
    rw [next_quote, next_quote, quotation_crlf ht.2 (hstop rfl)]
  | punctuation kind h => rw [next_punctuation h, next_punctuation h]
  | word h =>
    obtain ⟨htake, hdrop⟩ := takeWhile_crlf (p := isWordChar) (by decide) (by decide) t
    rw [next_word h, next_word h, htake, hdrop]
  | blank hblank hspacing hnewline =>
    have hreturn : ∀ s : Text, ¬(c = '\r' ∧ s.head? = some '\n') := fun _ h => ht.1 h.1.symm
    rw [next_blank hblank hspacing hnewline (hreturn _),
      next_blank hblank hspacing hnewline (hreturn _)]

/-! ## Unmatched quotes at line ends -/

/-- The backslash of a line that it ends. -/
def backslash : Lexeme := ⟨.word, ['\\']⟩

/-- The end of a line without a carriage return. -/
def feed : Lexeme := ⟨.newline, ['\n']⟩

/-- A double quote that no other one matches. -/
structure IsOpenQuote (x : Lexeme) : Prop where
  kind_eq : x.kind = .word
  head?_eq : x.text.head? = some '"'

/-- An unmatched quote comes in front of a backslash at the end of a line. -/
def Hangs (xs : List Lexeme) : Prop := ∃ q, IsOpenQuote q ∧ [q, backslash, feed] <:+: xs

/-- Without lexemes there is no quote to hang. -/
theorem not_hangs_nil : ¬Hangs [] := fun ⟨_, _, hinfix⟩ => by simp at hinfix

/-- A quote hangs at the front or further on. -/
theorem hangs_cons {x : Lexeme} {xs : List Lexeme} :
    Hangs (x :: xs) ↔ IsOpenQuote x ∧ [backslash, feed] <+: xs ∨ Hangs xs := by
  constructor
  · rintro ⟨q, hq, hinfix⟩
    rcases List.infix_cons_iff.1 hinfix with hbegins | hinfix
    · obtain ⟨rfl, htail⟩ := List.cons_prefix_cons.1 hbegins
      exact Or.inl ⟨hq, htail⟩
    · exact Or.inr ⟨q, hq, hinfix⟩
  · rintro (⟨hx, hbegins⟩ | ⟨q, hq, hinfix⟩)
    · exact ⟨x, hx, List.infix_cons_iff.2 (Or.inl (List.cons_prefix_cons.2 ⟨rfl, hbegins⟩))⟩
    · exact ⟨q, hq, List.infix_cons hinfix⟩

instance (x : Lexeme) : Decidable (IsOpenQuote x) :=
  decidable_of_iff (x.kind = .word ∧ x.text.head? = some '"')
    ⟨fun h => ⟨h.1, h.2⟩, fun h => ⟨h.kind_eq, h.head?_eq⟩⟩

instance decidableHangs : (xs : List Lexeme) → Decidable (Hangs xs)
  | [] => isFalse not_hangs_nil
  | _ :: xs =>
    have := decidableHangs xs
    decidable_of_iff _ hangs_cons.symm

/-- The number of lexemes that make leaves. -/
def leafCount (xs : List Lexeme) : Nat := xs.countP (!·.kind.isTrivia)

/-- A lexeme counts unless it is trivia. -/
theorem leafCount_cons (x : Lexeme) (xs : List Lexeme) :
    leafCount (x :: xs) = leafCount xs + if x.kind.isTrivia then 0 else 1 := by
  rw [leafCount, List.countP_cons]
  cases x.kind.isTrivia <;> rfl

/-- What the lexemes of a text become with a carriage return in front of every line feed. -/
inductive Returned : List Lexeme → List Lexeme → Prop
  | nil : Returned [] []
  /-- A line end takes its carriage return, and any other lexeme stays as it is. -/
  | cons {x : Lexeme} {xs ys : List Lexeme} (hx : ¬(IsOpenQuote x ∧ [backslash, feed] <+: xs))
      (h : Returned xs ys) : Returned (x :: xs) (x.withReturn :: ys)
  /-- An unmatched quote takes the backslash behind it with the carriage return of the line end. -/
  | hanging {q : Lexeme} {xs ys : List Lexeme} (hq : IsOpenQuote q) (h : Returned xs ys) :
      Returned (q :: backslash :: feed :: xs) (⟨.word, q.text ++ ['\\', '\r']⟩ :: feed :: ys)

namespace Returned

variable {xs ys : List Lexeme}

/-- Where no quote hangs, all that changes is the line ends. -/
theorem eq_map (h : Returned xs ys) (hangs : ¬Hangs xs) : ys = xs.map withReturn := by
  induction h with
  | nil => rfl
  | cons hx h ih =>
    rw [List.map_cons, ih fun hrest => hangs (hangs_cons.2 (Or.inr hrest))]
  | hanging hq h ih => exact absurd (hangs_cons.2 (Or.inl ⟨hq, _, rfl⟩)) hangs

/-- A quote that hangs makes one leaf of two, and no other lexeme gives a leaf more or less. -/
theorem leafCount_le (h : Returned xs ys) :
    leafCount ys ≤ leafCount xs ∧ (Hangs xs → leafCount ys < leafCount xs) := by
  induction h with
  | nil => exact ⟨Nat.le_refl _, fun hangs => absurd hangs not_hangs_nil⟩
  | @cons x xs ys hx h ih =>
    have hkind : x.withReturn.kind = x.kind := rfl
    rw [leafCount_cons, leafCount_cons, hkind]
    refine ⟨Nat.add_le_add_right ih.1 _, fun hangs => Nat.add_lt_add_right (ih.2 ?_) _⟩
    -- The quote is not `x`, so it is further on.
    exact (hangs_cons.1 hangs).resolve_left hx
  | @hanging q xs ys hq h ih =>
    have hword : TokenKind.isTrivia .word = false := rfl
    have hnewline : TokenKind.isTrivia .newline = true := rfl
    have hlt : leafCount (⟨.word, q.text ++ ['\\', '\r']⟩ :: feed :: ys) <
        leafCount (q :: backslash :: feed :: xs) := by
      have := ih.1
      simp only [leafCount_cons, hq.kind_eq, backslash, feed, hword, hnewline]
      simp only [Bool.false_eq_true, if_true, if_false]
      omega
    exact ⟨Nat.le_of_lt hlt, fun _ => hlt⟩

end Returned

/-! ## Texts -/

/-- A line feed in front is a lexeme of its own. -/
theorem ofText_newline (t : Text) : ofText ('\n' :: t) = feed :: ofText t := by
  rw [ofText_cons, next_newline]
  rfl

/-- So are a carriage return and a line feed. -/
theorem ofText_return_newline (t : Text) :
    ofText ('\r' :: '\n' :: t) = feed.withReturn :: ofText t := by
  have hnext : next '\r' ('\n' :: t) = (⟨.newline, ['\r', '\n']⟩, t) := rfl
  rw [ofText_cons, hnext]
  rfl

/-- A backslash at the end of a line is a word. -/
theorem ofText_backslash_newline (t : Text) :
    ofText ('\\' :: '\n' :: t) = backslash :: feed :: ofText t := by
  have hword : isWordChar '\\' = true := by decide
  have hfeed : isWordChar '\n' = false := by decide
  rw [ofText_cons, next_word hword, List.takeWhile_cons_of_neg (by simp [hfeed]),
    List.dropWhile_cons_of_neg (by simp [hfeed]), ofText_newline]
  rfl

/-- A quote whose quoted run stops at a backslash at the end of a line. With the carriage return
between the two, the run goes on up to the line feed. -/
theorem ofText_quote_of_hanging {t r : Text} (hstop : dropQuoted t = '\\' :: '\n' :: r) :
    ofText ('"' :: t) = ⟨.word, '"' :: takeQuoted t⟩ :: backslash :: feed :: ofText r ∧
      ofText ('"' :: t.crlf) =
        ⟨.word, '"' :: takeQuoted t ++ ['\\', '\r']⟩ :: feed :: ofText r.crlf := by
  obtain ⟨htake, hdrop⟩ := quoted_crlf t
  have hcrlf : crlf (dropQuoted t) = '\\' :: '\r' :: '\n' :: r.crlf := by
    rw [hstop, crlf_cons_of_ne (by decide), crlf_cons_newline]
  have htake' : takeQuoted t.crlf = takeQuoted t ++ ['\\', '\r'] := by
    rw [htake, hcrlf]
    simp [takeQuoted, isPlainQuoted]
  have hdrop' : dropQuoted t.crlf = '\n' :: r.crlf := by
    rw [hdrop, hcrlf]
    simp [dropQuoted, isPlainQuoted]
  constructor
  · rw [ofText_cons, next_quote, quotation, hstop, ← ofText_backslash_newline]
    rfl
  · rw [ofText_cons, next_quote, quotation, hdrop', htake', ← ofText_newline]
    rfl

/-- What is left behind an unmatched quote is what its quoted run stopped at. -/
theorem quotation_snd_of_word {t : Text} (h : (quotation t).1.kind = .word) :
    (quotation t).2 = dropQuoted t := by
  unfold quotation at h ⊢
  split at h
  next => simp at h
  next => rfl

/-- A lexeme ends a line only if it begins with a line feed or a carriage return. -/
theorem kind_next_ne_newline {c : Char} (hc : c ≠ '\n') (hr : c ≠ '\r') (t : Text) :
    (next c t).1.kind ≠ .newline := by
  intro hkind
  obtain ⟨w, htext, -⟩ := next_text c t
  rcases (lawful_next c t).eq_newline hkind with h | h
  · exact hc (List.cons.inj (htext.symm.trans h)).1
  · exact hr (List.cons.inj (htext.symm.trans h)).1

/-- An unmatched quote hangs only if its quoted run stops at a backslash and a line feed. -/
theorem dropQuoted_of_hanging {c : Char} {t : Text} (hq : IsOpenQuote (next c t).1)
    (hbegins : [backslash, feed] <+: ofText (next c t).2) :
    c = '"' ∧ ∃ r, dropQuoted t = '\\' :: '\n' :: r := by
  obtain ⟨w, htext, -⟩ := next_text c t
  have hc : c = '"' := by
    have hhead := hq.head?_eq
    rw [htext] at hhead
    exact Option.some.inj hhead
  subst hc
  obtain ⟨xs, hxs⟩ := hbegins
  have hrest := flatMap_text_ofText (next '"' t).2
  rw [← hxs, next_quote, quotation_snd_of_word hq.kind_eq] at hrest
  exact ⟨rfl, _, hrest.symm⟩

/-- With a carriage return in front of every line feed, unmatched quotes take the backslashes behind
them at line ends, and nothing else changes but the line ends. -/
theorem returned_ofText {t : Text} (ht : '\r' ∉ t) : Returned (ofText t) (ofText t.crlf) := by
  -- By the length of the text, since a lexeme takes any number of its characters.
  induction hn : t.length using Nat.strongRecOn generalizing t with
  | ind n ih =>
    cases t with
    | nil =>
      rw [crlf_nil, ofText]
      exact .nil
    | cons c t =>
      have hall := ht
      rw [List.mem_cons, not_or] at ht
      by_cases hc : c = '\n'
      · rw [hc, ofText_newline, crlf_cons_newline, ofText_return_newline]
        refine .cons (fun h => ?_) (ih t.length (hn ▸ Nat.lt_succ_self _) ht.2 rfl)
        exact absurd h.1.kind_eq (by decide)
      by_cases hhang : c = '"' ∧ ∃ r, dropQuoted t = '\\' :: '\n' :: r
      · -- The quote and the backslash are read together, and then comes the rest of the text.
        obtain ⟨rfl, r, hstop⟩ := hhang
        obtain ⟨hplain, hreturn⟩ := ofText_quote_of_hanging hstop
        have hsuffix := dropQuoted_isSuffix t
        rw [hstop] at hsuffix
        have hr : '\r' ∉ r := fun hmem => ht.2 (hsuffix.mem (by simp [hmem]))
        have hlt : r.length < n := by
          have := hsuffix.length_le
          simp only [List.length_cons] at this hn
          omega
        rw [crlf_cons_of_ne hc, hplain, hreturn]
        exact .hanging ⟨rfl, rfl⟩ (ih r.length hlt hr rfl)
      · -- Any other lexeme is read as before, so that the rest is the same text with new line ends.
        have hstop : c = '"' → ∀ r, dropQuoted t ≠ '\\' :: '\n' :: r :=
          fun hquote r h => hhang ⟨hquote, r, h⟩
        have hrest : '\r' ∉ (next c t).2 := fun hmem =>
          hall (text_next_append c t ▸ List.mem_append_right _ hmem)
        have hsame : (next c t).1.withReturn = (next c t).1 :=
          (lawful_next c t).withReturn_eq (kind_next_ne_newline hc (Ne.symm ht.1) t)
        have hnext := next_crlf hall hc hstop
        rw [crlf_cons_of_ne hc, ofText_cons, ofText_cons, hnext]
        have hlt : (next c t).2.length < n := hn ▸ length_next_lt c t
        have htail := ih _ hlt hrest rfl
        have hcons := Returned.cons (fun h => hhang (dropQuoted_of_hanging h.1 h.2)) htail
        rwa [hsame] at hcons

end NotebookLayout.Lexeme
