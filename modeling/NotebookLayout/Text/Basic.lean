/-!
# Texts measured in bytes

A text is a list of characters. Offsets into a text count the bytes of its UTF-8 encoding, so an
offset may lie inside a character; the operations that cut a text refuse such offsets.

Main statements: `splitAt?_eq_some_iff` says exactly which cuts exist, `slice?_append` that a slice
is the stretch between its two offsets, and `takeWithin_append_dropWithin`, `byteSize_takeWithin_le`
and `takeWithin_maximal` that `takeWithin` is the longest part that fits.
-/

namespace NotebookLayout

/-- A text, character by character. -/
abbrev Text := List Char

namespace Text

/-! ## Byte size -/

/-- The number of bytes of the UTF-8 encoding. -/
def byteSize : Text → Nat
  | [] => 0
  | c :: t => c.utf8Size + byteSize t

@[simp] theorem byteSize_nil : byteSize [] = 0 := rfl

@[simp] theorem byteSize_cons (c : Char) (t : Text) :
    byteSize (c :: t) = c.utf8Size + byteSize t := rfl

@[simp] theorem byteSize_append (s t : Text) : byteSize (s ++ t) = byteSize s + byteSize t := by
  induction s with
  | nil => simp
  | cons c s ih => simp [ih, Nat.add_assoc]

/-- No character is empty, so a text has at least as many bytes as characters. -/
theorem length_le_byteSize (t : Text) : t.length ≤ byteSize t := by
  induction t with
  | nil => simp
  | cons c t ih =>
    have := c.utf8Size_pos
    simp only [List.length_cons, byteSize_cons]
    omega

/-- Every character takes a byte or more. -/
@[simp] theorem byteSize_eq_zero_iff {t : Text} : byteSize t = 0 ↔ t = [] := by
  cases t with
  | nil => simp
  | cons c t =>
    have := c.utf8Size_pos
    simp only [byteSize_cons, reduceCtorEq, iff_false]
    omega

/-! ## Cutting at an offset -/

/-- The text before byte `n` and the text from there on. There is none when `n` lies beyond the
text or inside a character. -/
def splitAt? : Nat → Text → Option (Text × Text)
  | 0, t => some ([], t)
  | _ + 1, [] => none
  | n + 1, c :: t =>
    if c.utf8Size ≤ n + 1 then
      (splitAt? (n + 1 - c.utf8Size) t).map fun p => (c :: p.1, p.2)
    else none

/-- A cut exists exactly where a character begins or the text ends, and it is unique. -/
theorem splitAt?_eq_some_iff {n : Nat} {t a b : Text} :
    splitAt? n t = some (a, b) ↔ t = a ++ b ∧ byteSize a = n := by
  fun_induction splitAt? n t generalizing a b with
  | case1 t => grind [byteSize_eq_zero_iff]
  | case2 n =>
    constructor
    · simp
    · rintro ⟨h, hn⟩
      obtain ⟨rfl, rfl⟩ : a = [] ∧ b = [] := by simpa using h.symm
      simp at hn
  | case3 n c t hc ih =>
    constructor
    · intro h
      obtain ⟨⟨x, y⟩, hxy, heq⟩ := Option.map_eq_some_iff.1 h
      obtain ⟨rfl, rfl⟩ := Prod.mk.inj heq
      obtain ⟨rfl, hx⟩ := ih.1 hxy
      refine ⟨rfl, ?_⟩
      simp only [byteSize_cons]
      omega
    · rintro ⟨h, hn⟩
      cases a with
      | nil => simp at hn
      | cons d a =>
        obtain ⟨rfl, rfl⟩ := List.cons.inj h
        refine Option.map_eq_some_iff.2 ⟨(a, b), ih.2 ⟨rfl, ?_⟩, rfl⟩
        simp only [byteSize_cons] at hn
        omega
  | case4 n c t hc =>
    constructor
    · simp
    · rintro ⟨h, hn⟩
      cases a with
      | nil => simp at hn
      | cons d a =>
        obtain ⟨rfl, rfl⟩ := List.cons.inj h
        simp only [byteSize_cons] at hn
        omega

/-- Texts side by side are split where they meet. -/
@[simp] theorem splitAt?_append (a b : Text) : splitAt? (byteSize a) (a ++ b) = some (a, b) :=
  splitAt?_eq_some_iff.2 ⟨rfl, rfl⟩

/-- The text from byte `n` on. -/
def dropBytes? (n : Nat) (t : Text) : Option Text := (splitAt? n t).map (·.2)

/-- The text from byte `start` up to byte `stop`. A range that ends no later than it starts is
empty, whatever its bounds; any other needs both bounds between characters of the text. -/
def slice? (start stop : Nat) (t : Text) : Option Text :=
  if stop ≤ start then some []
  else do
    let (_, rest) ← splitAt? start t
    let (inside, _) ← splitAt? (stop - start) rest
    return inside

/-- A text between two others is cut out at its place. -/
theorem slice?_append (a m b : Text) :
    slice? (byteSize a) (byteSize a + byteSize m) (a ++ m ++ b) = some m := by
  unfold slice?
  split
  next h =>
    have : byteSize m = 0 := by omega
    simp_all
  next h =>
    rw [List.append_assoc, splitAt?_append]
    simp

/-! ## The longest part that fits -/

/-- As many leading characters as fit into `n` bytes. -/
def takeWithin : Nat → Text → Text
  | _, [] => []
  | n, c :: t => if c.utf8Size ≤ n then c :: takeWithin (n - c.utf8Size) t else []

/-- What `takeWithin` leaves. -/
def dropWithin : Nat → Text → Text
  | _, [] => []
  | n, c :: t => if c.utf8Size ≤ n then dropWithin (n - c.utf8Size) t else c :: t

/-- What is taken and what is dropped are the text. -/
@[simp] theorem takeWithin_append_dropWithin (n : Nat) (t : Text) :
    takeWithin n t ++ dropWithin n t = t := by
  fun_induction takeWithin n t <;> grind [dropWithin]

/-- What is taken stays within the limit. -/
theorem byteSize_takeWithin_le (n : Nat) (t : Text) : byteSize (takeWithin n t) ≤ n := by
  fun_induction takeWithin n t <;> simp only [byteSize_nil, byteSize_cons] <;> omega

/-- The next character would not have fitted. -/
theorem takeWithin_maximal {n : Nat} {t r : Text} {c : Char} (h : dropWithin n t = c :: r) :
    n < byteSize (takeWithin n t) + c.utf8Size := by
  fun_induction takeWithin n t with
  | case1 => simp [dropWithin] at h
  | case2 n d t hd ih =>
    have := ih (by simpa [dropWithin, hd] using h)
    simp only [byteSize_cons]
    omega
  | case3 n d t hd =>
    obtain ⟨rfl, rfl⟩ : d = c ∧ t = r := by simpa [dropWithin, hd] using h
    simp only [byteSize_nil]
    omega

/-! ## Trimming -/

/-- The text without its longest tail of characters that satisfy `p`. -/
def dropEndWhile (p : Char → Bool) (t : Text) : Text := (t.reverse.dropWhile p).reverse

/-- The longest tail of characters that satisfy `p`. -/
def takeEndWhile (p : Char → Bool) (t : Text) : Text := (t.reverse.takeWhile p).reverse

/-- What is dropped at the end and what is left are the text. -/
@[simp] theorem dropEndWhile_append_takeEndWhile (p : Char → Bool) (t : Text) :
    dropEndWhile p t ++ takeEndWhile p t = t := by
  rw [dropEndWhile, takeEndWhile, ← List.reverse_append, List.takeWhile_append_dropWhile,
    List.reverse_reverse]

end Text

end NotebookLayout
