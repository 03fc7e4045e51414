import NotebookLayout.Proofs.Token.Tokens

/-!
# Tokens that make up a text

Whoever hands over tokens may cut a text in other ways than its lexemes do, and keep several lines
in one token. This file says what has to hold of such tokens:

- `Tiling`: the tokens lie side by side and have the text under them, and trivia is white space;
- `tiling_ofText`: the tokens of a text are an instance;
- `Tiling.eq_place`: such tokens are their own lexemes, put side by side.
-/

namespace NotebookLayout

open Text

/-- A slice that begins where a part of the text ends is the beginning of the rest. -/
theorem Text.exists_of_slice?_append {a b w : Text} {stop : Nat} (hle : byteSize a ≤ stop)
    (h : slice? (byteSize a) stop (a ++ b) = some w) :
    ∃ rest, b = w ++ rest ∧ stop = byteSize a + byteSize w := by
  unfold slice? at h
  split at h
  next hempty =>
    obtain rfl := Option.some.inj h
    exact ⟨b, rfl, Nat.le_antisymm hempty hle⟩
  next =>
    rw [splitAt?_append, Option.bind_eq_bind, Option.bind_some] at h
    obtain ⟨⟨inside, rest⟩, hcut, hinside⟩ := Option.bind_eq_some_iff.1 h
    obtain rfl : inside = w := Option.some.inj hinside
    obtain ⟨hb, hsize⟩ := splitAt?_eq_some_iff.1 hcut
    exact ⟨rest, hb, by omega⟩

/-- The spans lead from `start` to `stop`: each starts where the one before it stops. -/
def Span.Leads (start stop : Nat) : List Span → Prop
  | [] => start = stop
  | s :: rest => s.start = start ∧ start ≤ s.stop ∧ Leads s.stop stop rest

instance Span.decidableLeads (start stop : Nat) (spans : List Span) :
    Decidable (Leads start stop spans) :=
  match spans with
  | [] => inferInstanceAs (Decidable (start = stop))
  | s :: rest =>
    have := decidableLeads s.stop stop rest
    inferInstanceAs (Decidable (s.start = start ∧ start ≤ s.stop ∧ Leads s.stop stop rest))

/-- Spans side by side lead on without gaps. -/
theorem Span.Tiles.leads {start stop : Nat} {spans : List Span} (h : Tiles start stop spans) :
    Leads start stop spans := by
  induction spans generalizing start with
  | nil => exact h
  | cons s rest ih => exact ⟨h.1, Nat.le_of_lt h.2.1, ih h.2.2⟩

namespace Token

/-- The text is a run of spaces, tabs and form feeds, or a single line end. -/
def IsTriviaText (t : Text) : Prop :=
  (∀ c ∈ t, Lexeme.isSpacing c = true) ∨ t = ['\n'] ∨ t = ['\r', '\n']

instance (t : Text) : Decidable (IsTriviaText t) :=
  -- Goes through the characters of the text, not through all that there are.
  have : Decidable (∀ c ∈ t, Lexeme.isSpacing c = true) := List.decidableBAll _ t
  inferInstanceAs (Decidable (_ ∨ _ ∨ _))

/-- What the token is and its text, without the place. -/
def lexeme (token : Token) : Lexeme := ⟨token.kind, token.text⟩

/-- The tokens lie side by side from the start of the text to its end, each has the text at its
place, and trivia is nothing but spacing or a line end. -/
structure Tiling (t : Text) (tokens : List Token) : Prop where
  leads : Span.Leads 0 (byteSize t) (tokens.map (·.span))
  slice_eq : ∀ token ∈ tokens, slice? token.span.start token.span.stop t = some token.text
  trivia : ∀ token ∈ tokens, token.kind.isTrivia = true → IsTriviaText token.text

instance (t : Text) (tokens : List Token) : Decidable (Tiling t tokens) :=
  decidable_of_iff
    (Span.Leads 0 (byteSize t) (tokens.map (·.span)) ∧
      (∀ token ∈ tokens, slice? token.span.start token.span.stop t = some token.text) ∧
      ∀ token ∈ tokens, token.kind.isTrivia = true → IsTriviaText token.text)
    ⟨fun ⟨hleads, hslice, htrivia⟩ => ⟨hleads, hslice, htrivia⟩,
      fun h => ⟨h.leads, h.slice_eq, h.trivia⟩⟩

/-- Behind a part of the text, tokens that lead to its end are their lexemes side by side. -/
theorem eq_place_of_leads {a b : Text} {tokens : List Token}
    (hleads : Span.Leads (byteSize a) (byteSize (a ++ b)) (tokens.map (·.span)))
    (hslice : ∀ token ∈ tokens,
      slice? token.span.start token.span.stop (a ++ b) = some token.text) :
    tokens = place (byteSize a) (tokens.map lexeme) ∧ tokens.flatMap (·.text) = b := by
  induction tokens generalizing a b with
  | nil =>
    have hsize : byteSize a = byteSize (a ++ b) := hleads
    rw [byteSize_append] at hsize
    have hb : b = [] := byteSize_eq_zero_iff.1 (by omega)
    exact ⟨rfl, hb.symm⟩
  | cons token rest ih =>
    obtain ⟨hstart, hle, hrest⟩ := hleads
    have hfirst := hslice token List.mem_cons_self
    rw [hstart] at hfirst
    obtain ⟨b, rfl, hstop⟩ := exists_of_slice?_append hle hfirst
    -- The text in front grows by the text of the token.
    rw [← List.append_assoc] at hrest hslice
    rw [hstop, ← byteSize_append] at hrest
    obtain ⟨hplace, hjoin⟩ := ih hrest fun x hx => hslice x (List.mem_cons_of_mem token hx)
    have htoken : token = ⟨token.kind, token.text,
        ⟨byteSize a, byteSize a + byteSize token.text⟩⟩ := by
      rw [← hstop, ← hstart]
    rw [byteSize_append] at hplace
    rw [List.flatMap_cons, hjoin]
    exact ⟨List.cons_eq_cons.2 ⟨htoken, hplace⟩, rfl⟩

/-- Tokens that tile a text are their own texts, placed one behind the other. -/
theorem Tiling.eq_place {t : Text} {tokens : List Token} (h : Tiling t tokens) :
    tokens = place 0 (tokens.map lexeme) ∧ tokens.flatMap (·.text) = t :=
  eq_place_of_leads (a := []) h.leads h.slice_eq

/-- The tokens of a text tile it. -/
theorem tiling_ofText (t : Text) : Tiling t (ofText t) where
  leads := by
    have h := tiles_place 0 fun x (hx : x ∈ Lexeme.ofText t) => Lexeme.text_ne_nil hx
    rw [Nat.zero_add, Lexeme.flatMap_text_ofText] at h
    exact h.leads
  slice_eq token h := (slice?_of_mem_ofText h).2.2
  trivia token h htrivia := by
    have hlawful := Lexeme.lawful_of_mem_ofText (exists_of_mem_ofText h).1
    cases hkind : token.kind with
    | whitespace => exact Or.inl (hlawful.isSpacing hkind)
    | newline => exact Or.inr (hlawful.eq_newline hkind)
    | _ => exact absurd htrivia (by simp [hkind, TokenKind.isTrivia])

end Token

end NotebookLayout
