import Mathlib.Data.List.Chain
import NotebookLayout.Proofs.Span
import NotebookLayout.Proofs.Token.Next

/-!
# The tokens of a text

Cutting off lexemes until nothing is left gives tokens that lie side by side and have the text under
them. Each is what its own text would give alone:

- `Lexeme.ofText_text`: a lexeme read again is one lexeme, the same;
- `Lexeme.isChain_ofText`: no two runs of white space are side by side;
- `Lexeme.ofText_append`: a text that ends a line gives the same lexemes whatever follows it;
- `Span.Tiles`: spans from one offset to another, without gap or overlap;
- `Token.ofText_stable`: what all this says of the tokens of a text;
- `Token.ofText_append_moved`: behind a text that ends a line, the tokens of another one are the
  same, further on.
-/

namespace NotebookLayout

open Text

/-! ## Lexemes -/

namespace Lexeme

/-- The lexemes of a text are its first one and those of what is left. -/
theorem ofText_cons (c : Char) (t : Text) :
    ofText (c :: t) = (next c t).1 :: ofText (next c t).2 := by
  rw [ofText]

/-- The text of a lexeme alone gives just that lexeme. -/
theorem ofText_text {t : Text} {x : Lexeme} (h : x ∈ ofText t) : ofText x.text = [x] := by
  fun_induction ofText t with
  | case1 => simp at h
  | case2 c t ih =>
    rcases List.mem_cons.1 h with rfl | h
    · obtain ⟨w, htext, hnext⟩ := next_text c t
      rw [htext, ofText_cons, hnext, ofText]
    · exact ih h

/-- No lexeme is empty. -/
theorem text_ne_nil {t : Text} {x : Lexeme} (h : x ∈ ofText t) : x.text ≠ [] := by
  intro hnil
  have hself := ofText_text h
  rw [hnil, ofText] at hself
  simp at hself

/-- Only spacing begins a run of white space. -/
theorem isSpacing_of_next {c : Char} {t : Text} (h : (next c t).1.kind = .whitespace) :
    isSpacing c = true := by
  have hc := (lawful_next c t).isSpacing h
  obtain ⟨w, htext, -⟩ := next_text c t
  exact hc c (by rw [htext]; exact List.mem_cons_self)

/-- A run of white space takes all the spacing that there is, so none follows it. -/
theorem isChain_ofText (t : Text) :
    ((ofText t).map (·.kind)).IsChain fun a b => a = .whitespace → b ≠ .whitespace := by
  fun_induction ofText t with
  | case1 => exact .nil
  | case2 c t ih =>
    refine List.isChain_cons.2 ⟨?_, ih⟩
    intro kind hkind hfirst hsecond
    rw [next_spacing (isSpacing_of_next hfirst)] at hkind
    -- What is left begins with a character that is no spacing.
    have hrest := List.head?_dropWhile_not isSpacing t
    cases hd : t.dropWhile isSpacing with
    | nil => simp [hd, ofText] at hkind
    | cons d r =>
      rw [hd] at hrest hkind
      simp only [ofText_cons, List.map_cons, List.head?_cons, Option.mem_def,
        Option.some.injEq] at hkind
      have hd := isSpacing_of_next (hkind.trans hsecond)
      simp [hd] at hrest

/-- The end of a text that ends a line ends it too. -/
theorem endsLine_of_append {u v : Text} (h : EndsLine (u ++ v)) : EndsLine v := by
  induction u with
  | nil => exact h
  | cons c u ih => exact ih h.of_cons

/-- The lexemes of a text that ends a line are not changed by what follows it. -/
theorem ofText_append {u : Text} (hu : EndsLine u) (v : Text) :
    ofText (u ++ v) = ofText u ++ ofText v := by
  fun_induction ofText u with
  | case1 => rfl
  | case2 c u ih =>
    have hrest : EndsLine (next c u).2 := by
      rw [← text_next_append c u] at hu
      exact endsLine_of_append hu
    rw [List.cons_append, ofText_cons, next_append hu, ih hrest, List.cons_append]

end Lexeme

/-! ## Spans side by side -/

/-- The spans lead from `start` to `stop`: each starts where the one before it stops, and none is
empty. -/
def Span.Tiles (start stop : Nat) : List Span → Prop
  | [] => start = stop
  | s :: rest => s.start = start ∧ start < s.stop ∧ Tiles s.stop stop rest

/-- The place of a text that is not empty, put in front of what lies side by side from there on. -/
theorem Span.Tiles.cons {offset : Nat} {w v : Text} {rest : List Span} (hw : w ≠ [])
    (h : Tiles (offset + byteSize w) (offset + byteSize w + byteSize v) rest) :
    Tiles offset (offset + byteSize (w ++ v)) (⟨offset, offset + byteSize w⟩ :: rest) := by
  have hpos : 0 < byteSize w := Nat.pos_of_ne_zero fun hzero => hw (byteSize_eq_zero_iff.1 hzero)
  rw [Nat.add_assoc, ← byteSize_append] at h
  exact ⟨rfl, Nat.lt_add_of_pos_right hpos, h⟩

/-! ## Tokens -/

namespace Token

/-- Placed lexemes keep their kinds. -/
theorem map_kind_place (offset : Nat) (xs : List Lexeme) :
    (place offset xs).map (·.kind) = xs.map (·.kind) := by
  induction xs generalizing offset with
  | nil => rfl
  | cons x xs ih => rw [place, List.map_cons, List.map_cons, ih]

/-- Placed lexemes lie side by side. -/
theorem tiles_place (offset : Nat) {xs : List Lexeme} (h : ∀ x ∈ xs, x.text ≠ []) :
    Span.Tiles offset (offset + byteSize (xs.flatMap (·.text)))
      ((place offset xs).map (·.span)) := by
  induction xs generalizing offset with
  | nil => rfl
  | cons x xs ih =>
    have hrest := ih (offset + byteSize x.text) fun y hy => h y (List.mem_cons_of_mem x hy)
    exact .cons (h x List.mem_cons_self) hrest

/-- A token is a lexeme at the place to which the lexemes in front of it lead. -/
theorem exists_of_mem_place {offset : Nat} {xs : List Lexeme} {token : Token}
    (h : token ∈ place offset xs) :
    ∃ pre x post, xs = pre ++ x :: post ∧ token.kind = x.kind ∧ token.text = x.text ∧
      token.span.start = offset + byteSize (pre.flatMap (·.text)) ∧
      token.span.stop = token.span.start + byteSize x.text := by
  induction xs generalizing offset with
  | nil => simp [place] at h
  | cons x xs ih =>
    rcases List.mem_cons.1 h with rfl | h
    · exact ⟨[], x, xs, rfl, rfl, rfl, rfl, rfl⟩
    · obtain ⟨pre, y, post, rfl, hkind, htext, hstart, hstop⟩ := ih h
      refine ⟨x :: pre, y, post, rfl, hkind, htext, ?_, hstop⟩
      rw [hstart, List.flatMap_cons, byteSize_append, Nat.add_assoc]

/-- A token of a text is one of its lexemes, and the text is cut at both edges of the token. -/
theorem exists_of_mem_ofText {t : Text} {token : Token} (h : token ∈ ofText t) :
    (⟨token.kind, token.text⟩ : Lexeme) ∈ Lexeme.ofText t ∧
      ∃ a b, t = a ++ token.text ++ b ∧
        token.span = ⟨byteSize a, byteSize a + byteSize token.text⟩ := by
  obtain ⟨pre, x, post, hxs, hkind, htext, hstart, hstop⟩ := exists_of_mem_place h
  obtain ⟨kind, text, ⟨start, stop⟩⟩ := token
  dsimp only at hkind htext hstart hstop ⊢
  subst hkind htext hstop
  rw [Nat.zero_add] at hstart
  refine ⟨by rw [hxs]; simp, pre.flatMap (·.text), post.flatMap (·.text), ?_, by rw [hstart]⟩
  rw [← Lexeme.flatMap_text_ofText t, hxs]
  simp

/-- No token of a text is empty. -/
theorem start_lt_stop_of_mem_ofText {t : Text} {token : Token} (h : token ∈ ofText t) :
    token.span.start < token.span.stop := by
  obtain ⟨hx, a, b, -, hspan⟩ := exists_of_mem_ofText h
  have hpos : 0 < byteSize token.text :=
    Nat.pos_of_ne_zero (mt byteSize_eq_zero_iff.1 (Lexeme.text_ne_nil hx))
  rw [hspan]
  exact Nat.lt_add_of_pos_right hpos

/-- No token of a text goes beyond it. -/
theorem stop_le_of_mem_ofText {t : Text} {token : Token} (h : token ∈ ofText t) :
    token.span.stop ≤ byteSize t := by
  obtain ⟨-, a, b, rfl, hspan⟩ := exists_of_mem_ofText h
  rw [hspan, byteSize_append, byteSize_append]
  exact Nat.le_add_right _ _

/-- Each token of a text begins and ends between characters, and has the text at its place. -/
theorem slice?_of_mem_ofText {t : Text} {token : Token} (h : token ∈ ofText t) :
    (splitAt? token.span.start t).isSome ∧ (splitAt? token.span.stop t).isSome ∧
      slice? token.span.start token.span.stop t = some token.text := by
  obtain ⟨-, a, b, rfl, hspan⟩ := exists_of_mem_ofText h
  have hstart := splitAt?_append a (token.text ++ b)
  have hstop := splitAt?_append (a ++ token.text) b
  rw [← List.append_assoc] at hstart
  rw [byteSize_append] at hstop
  rw [hspan, hstart, hstop]
  exact ⟨rfl, rfl, slice?_append a token.text b⟩

/-- The tokens of a text lie side by side from its start to its end, none is empty, and each has the
text at its place, between characters. Line feeds are in line ends only, white space is nothing but
spaces, tabs and form feeds, and no two runs of it are side by side. The text of a token alone gives
just that token. -/
theorem ofText_stable (t : Text) :
    let tokens := ofText t
    Span.Tiles 0 (byteSize t) (tokens.map (·.span)) ∧
      (∀ token ∈ tokens,
        (splitAt? token.span.start t).isSome ∧ (splitAt? token.span.stop t).isSome ∧
          slice? token.span.start token.span.stop t = some token.text) ∧
      (∀ token ∈ tokens, '\n' ∈ token.text → token.kind = .newline) ∧
      (∀ token ∈ tokens, token.kind = .newline →
        token.text = ['\n'] ∨ token.text = ['\r', '\n']) ∧
      (∀ token ∈ tokens, token.kind = .whitespace →
        ∀ c ∈ token.text, c = ' ' ∨ c = '\t' ∨ c = '\x0c') ∧
      (tokens.map (·.kind)).IsChain (fun a b => a = .whitespace → b ≠ .whitespace) ∧
      ∀ token ∈ tokens,
        ofText token.text = [⟨token.kind, token.text, ⟨0, byteSize token.text⟩⟩] := by
  intro tokens
  have hlawful : ∀ token ∈ tokens, Lexeme.Lawful ⟨token.kind, token.text⟩ := fun token h =>
    Lexeme.lawful_of_mem_ofText (exists_of_mem_ofText h).1
  refine ⟨?tiles, ?edges, ?feeds, ?newline, ?whitespace, ?chain, ?again⟩
  case tiles =>
    have htiles := tiles_place 0 fun x (hx : x ∈ Lexeme.ofText t) => Lexeme.text_ne_nil hx
    rw [Nat.zero_add, Lexeme.flatMap_text_ofText] at htiles
    exact htiles
  case edges => exact fun token h => slice?_of_mem_ofText h
  case feeds => exact fun token h => (hlawful token h).kind_eq_newline
  case newline => exact fun token h => (hlawful token h).eq_newline
  case whitespace =>
    intro token h hkind c hc
    have hspacing := (hlawful token h).isSpacing hkind c hc
    simpa [Lexeme.isSpacing, or_assoc] using hspacing
  case chain =>
    rw [show tokens.map (·.kind) = _ from map_kind_place 0 (Lexeme.ofText t)]
    exact Lexeme.isChain_ofText t
  case again =>
    intro token h
    rw [ofText, Lexeme.ofText_text (exists_of_mem_ofText h).1, place, place, Nat.zero_add]

/-! ## Tokens of joined texts -/

/-- The token `bytes` further on. -/
def moved (bytes : Nat) (token : Token) : Token := { token with span := token.span.moved bytes }

/-- The second lexemes lie behind the first. -/
theorem place_append (offset : Nat) (xs ys : List Lexeme) :
    place offset (xs ++ ys) =
      place offset xs ++ place (offset + byteSize (xs.flatMap (·.text))) ys := by
  induction xs generalizing offset with
  | nil => rfl
  | cons x xs ih =>
    rw [List.cons_append, place, place, ih, List.flatMap_cons, byteSize_append, Nat.add_assoc]
    rfl

/-- Lexemes that begin further on are the same tokens, further on. -/
theorem place_add (bytes offset : Nat) (xs : List Lexeme) :
    place (offset + bytes) xs = (place offset xs).map (moved bytes) := by
  induction xs generalizing offset with
  | nil => rfl
  | cons x xs ih =>
    rw [place, place, List.map_cons, ← ih]
    simp only [moved, Span.moved, Nat.add_right_comm]

/-- No token depends on another line. Behind a text that is empty or ends with a line feed, a second
text has the tokens that it has alone, each as many bytes further on as the first text has, and the
tokens of the first text are not changed by the second. -/
theorem ofText_append_moved {a : Text} (ha : EndsLine a) (b : Text) :
    ofText (a ++ b) = ofText a ++ (ofText b).map (moved (byteSize a)) := by
  calc ofText (a ++ b)
    _ = place 0 (Lexeme.ofText a ++ Lexeme.ofText b) := by
      rw [ofText, Lexeme.ofText_append ha]
    _ = ofText a ++ place (0 + byteSize a) (Lexeme.ofText b) := by
      rw [place_append, Lexeme.flatMap_text_ofText]
      rfl
    _ = ofText a ++ (ofText b).map (moved (byteSize a)) := by
      rw [place_add]
      rfl

/-- A double quote that nothing matches on its line, in front of a backslash that ends the line. Two
more quotes are on the next line, and match each other. -/
theorem ofText_append_moved_open_quote :
    let a := "s = \"a\\\n".toList
    let b := "b\" \"\t;\r\n".toList
    EndsLine a ∧ ofText (a ++ b) = ofText a ++ (ofText b).map (moved 8) ∧
      (ofText (a ++ b)).map (·.span.start) = [0, 1, 2, 3, 4, 6, 7, 8, 9, 12, 13, 14] := by
  intro a b
  have ha : EndsLine a := Or.inr (by decide +kernel)
  have happend := ofText_append_moved ha b
  refine ⟨ha, happend, ?_⟩
  rw [happend, List.map_append]
  decide +kernel

end Token

end NotebookLayout
