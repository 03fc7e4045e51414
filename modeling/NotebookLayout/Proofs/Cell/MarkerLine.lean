import Mathlib.Data.List.Basic
import Mathlib.Data.Option.Basic
import NotebookLayout.Cell.MarkerLine
import NotebookLayout.Proofs.Text.Trim

/-!
# The grammar of marker lines

Which lines are marker lines, and what they say, told without the steps that read them.

- `CellKind.tags`: the tags that stand for a kind;
- `EndsWithTag`: a text that ends with such a tag in brackets;
- `titleAndKind_of_endsWithTag` and `titleAndKind_of_not_endsWithTag`: how kind and title are told
  of the text behind the marker;
- `ofLine?_eq_some_iff`: the marker lines are those that go on behind the marker as they may;
- `ofLine?_grammar`: the whole grammar, and the lines of a title with a tag.
-/

namespace NotebookLayout

open Text

/-- The tags that stand for a kind, in lower case. Code cells need none. -/
def CellKind.tags : CellKind → List Text
  | .raw => ["raw".toList]
  | .code => []
  | .markdown => ["markdown".toList, "md".toList]

namespace MarkerLine

/-! ## Tags -/

/-- A tag sets a kind if it is one of the names of the kind, whatever the case of its letters and
the blanks around it. -/
theorem tagKind?_eq_some_iff {tag : Text} {kind : CellKind} :
    tagKind? tag = some kind ↔ (trim tag).map Char.toLower ∈ kind.tags := by
  unfold tagKind?
  generalize (trim tag).map Char.toLower = name
  dsimp only
  split
  next h =>
    -- No other kind goes by one of these two tags.
    rcases h with rfl | rfl <;> cases kind <;> decide
  next hmarkdown =>
    rw [not_or] at hmarkdown
    split
    next h =>
      subst h
      cases kind <;> decide
    next hraw =>
      cases kind with
      | raw => simpa [CellKind.tags] using hraw
      | code => simp [CellKind.tags]
      | markdown => simpa [CellKind.tags] using hmarkdown

/-- The text ends with a tag for the kind in brackets, and `front` is what comes before them. -/
def EndsWithTag (kind : CellKind) (t front : Text) : Prop :=
  ∃ tag, t = front ++ '[' :: tag ++ [']'] ∧ '[' ∉ tag ∧
    (trim tag).map Char.toLower ∈ kind.tags

/-- A tag as it stands in the list stands for its kind. -/
theorem endsWithTag_of_mem_tags {kind : CellKind} {tag : Text} (h : tag ∈ kind.tags)
    (front : Text) : EndsWithTag kind (front ++ '[' :: tag ++ [']']) front := by
  have htags : ∀ kind : CellKind, ∀ tag ∈ kind.tags, '[' ∉ tag ∧
      (trim tag).map Char.toLower ∈ kind.tags := by
    intro kind
    cases kind <;> decide
  exact ⟨tag, rfl, htags kind tag h⟩

/-- A tag at the end sets the kind, and what stands in front of it is the title. -/
theorem titleAndKind_of_endsWithTag {kind : CellKind} {t front : Text}
    (h : EndsWithTag kind t front) : titleAndKind t = (trimEnd front, kind) := by
  obtain ⟨tag, ht, htag, hkind⟩ := h
  rw [titleAndKind, splitTag?_eq_some_iff.2 ⟨ht, htag⟩]
  dsimp only
  rw [tagKind?_eq_some_iff.2 hkind]

/-- Without such a tag all is the title of a code cell. -/
theorem titleAndKind_of_not_endsWithTag {t : Text} (h : ∀ kind front, ¬EndsWithTag kind t front) :
    titleAndKind t = (t, .code) := by
  unfold titleAndKind
  split
  next front tag hsplit =>
    obtain ⟨ht, htag⟩ := splitTag?_eq_some_iff.1 hsplit
    split
    next kind hkind => exact absurd ⟨tag, ht, htag, tagKind?_eq_some_iff.1 hkind⟩ (h kind front)
    next => rfl
  next => rfl

/-- No tag makes a cell a code cell. -/
theorem EndsWithTag.kind_ne_code {kind : CellKind} {t front : Text} (h : EndsWithTag kind t front) :
    kind ≠ .code := by
  rintro rfl
  obtain ⟨_, _, _, hkind⟩ := h
  exact absurd hkind List.not_mem_nil

/-- Kinds other than code need a tag. -/
theorem kind_titleAndKind_iff {kind : CellKind} (hne : kind ≠ .code) {t : Text} :
    (titleAndKind t).2 = kind ↔ ∃ front, EndsWithTag kind t front := by
  constructor
  · rintro rfl
    by_contra hnone
    refine hne (congrArg Prod.snd (titleAndKind_of_not_endsWithTag fun kind front h => ?_))
    rw [titleAndKind_of_endsWithTag h] at hnone
    exact hnone ⟨front, h⟩
  · rintro ⟨front, h⟩
    rw [titleAndKind_of_endsWithTag h]

/-- The title of a text without blanks at its ends has none either. -/
theorem isTrimmed_titleAndKind {t : Text} (h : IsTrimmed t) : IsTrimmed (titleAndKind t).1 := by
  by_cases htag : ∃ kind front, EndsWithTag kind t front
  · obtain ⟨kind, front, htag⟩ := htag
    rw [titleAndKind_of_endsWithTag htag]
    obtain ⟨tag, rfl, -, -⟩ := htag
    rw [List.append_assoc] at h
    exact h.trimEnd_of_append
  · rw [titleAndKind_of_not_endsWithTag fun kind front hft => htag ⟨kind, front, hft⟩]
    exact h

/-! ## Lines -/

/-- The marker ends where nothing follows it, or a blank or an opening bracket. -/
theorem endsMarker_iff {rest : Text} :
    endsMarker rest = true ↔ ∀ c ∈ rest.head?, isBlank c = true ∨ c = '[' := by
  cases rest <;> simp [endsMarker]

/-- What a marker line says that goes on with `rest` behind the marker. -/
def ofRest (line : Line) (rest : Text) : MarkerLine where
  span := ⟨line.span.start, line.span.start + byteSize line.content⟩
  kind := (titleAndKind (trim rest)).2
  title := if (titleAndKind (trim rest)).1 = [] then none else some (titleAndKind (trim rest)).1

/-- A marker line begins with the marker, which has to end there. -/
theorem ofLine?_eq_some_iff {marker : Text} {line : Line} {ml : MarkerLine} :
    ofLine? marker line = some ml ↔
      ∃ rest, line.content = marker ++ rest ∧ endsMarker rest = true ∧ ml = ofRest line rest := by
  unfold ofLine?
  constructor
  · intro h
    obtain ⟨rest, hrest, h⟩ := Option.bind_eq_some_iff.1 h
    obtain ⟨_, hguard, h⟩ := Option.bind_eq_some_iff.1 h
    exact ⟨rest, (List.isPrefixOf?_eq_some_iff_append_eq.1 hrest).symm,
      (Option.guard_eq_some' _).1 hguard, (Option.some.inj h).symm⟩
  · rintro ⟨rest, hcontent, hends, rfl⟩
    refine Option.bind_eq_some_iff.2
      ⟨rest, List.isPrefixOf?_eq_some_iff_append_eq.2 hcontent.symm, ?_⟩
    exact Option.bind_eq_some_iff.2 ⟨(), (Option.guard_eq_some' _).2 hends, rfl⟩

/-- A line is its content and then terminators alone, and the content does not end with one. -/
theorem content_eq_iff {line : Line} {content : Text} :
    line.content = content ↔ ∃ ending, line.text = content ++ ending ∧
      (∀ c ∈ ending, c = '\r' ∨ c = '\n') ∧ ∀ c ∈ content.getLast?, c ≠ '\r' ∧ c ≠ '\n' := by
  rw [Line.content, dropEndWhile_eq_iff]
  simp [Line.isTerminator]

/-- A title that stands between two blanks in front of a tag is read back from a marker line. -/
theorem ofRest_title {kind : CellKind} {tag title : Text} (htag : tag ∈ kind.tags)
    (hne : title ≠ []) (htrimmed : IsTrimmed title) (line : Line) :
    let ml := ofRest line (' ' :: (title ++ ' ' :: '[' :: tag ++ [']']))
    ml.kind = kind ∧ ml.title = some title := by
  intro ml
  -- Only the blank behind the marker is trimmed off.
  have hrest : IsTrimmed (title ++ ' ' :: '[' :: tag ++ [']']) := by
    obtain ⟨c, u, rfl⟩ := List.exists_cons_of_ne_nil hne
    refine ⟨fun d hd => htrimmed.1 d hd, fun d hd => ?_⟩
    rw [List.getLast?_concat] at hd
    obtain rfl := Option.some.inj hd
    decide
  have htrim : trim (' ' :: (title ++ ' ' :: '[' :: tag ++ [']'])) =
      title ++ [' '] ++ '[' :: tag ++ [']'] := by
    have hblank : trim (' ' :: (title ++ ' ' :: '[' :: tag ++ [']'])) =
        trim (title ++ ' ' :: '[' :: tag ++ [']']) :=
      congrArg trimEnd (List.dropWhile_cons_of_pos (by decide))
    rw [hblank, hrest.trim_eq]
    simp
  -- The blank in front of the tag is no part of the title.
  have hread : titleAndKind (trim (' ' :: (title ++ ' ' :: '[' :: tag ++ [']']))) =
      (title, kind) := by
    rw [htrim, titleAndKind_of_endsWithTag (endsWithTag_of_mem_tags htag (title ++ [' ']))]
    have hend : trimEnd (title ++ [' ']) = title :=
      dropEndWhile_eq_iff.2 ⟨[' '], rfl, List.forall_mem_singleton.2 (by decide), htrimmed.2⟩
    rw [hend]
  refine ⟨congrArg Prod.snd hread, ?_⟩
  change (if (titleAndKind _).1 = [] then none else some (titleAndKind _).1) = some title
  rw [hread]
  exact if_neg hne

/-- A marker line goes on behind the marker with nothing, a blank or an opening bracket. What
follows the marker, trimmed, is the title of a code cell, unless it ends with a tag for another kind
in brackets; then what comes before them, trimmed, is the title. So a title with such a tag behind
it gives a cell of that title and that kind. -/
theorem ofLine?_grammar (marker : Text) (line : Line) :
    -- The content is the line without the terminators at its end.
    (∃ ending, line.text = line.content ++ ending ∧ (∀ c ∈ ending, c = '\r' ∨ c = '\n') ∧
        ∀ c ∈ line.content.getLast?, c ≠ '\r' ∧ c ≠ '\n') ∧
      ((∃ ml, ofLine? marker line = some ml) ↔
        ∃ rest, line.content = marker ++ rest ∧ ∀ c ∈ rest.head?, isBlank c = true ∨ c = '[') ∧
      (∀ rest ml, line.content = marker ++ rest → ofLine? marker line = some ml →
        ml.span = ⟨line.span.start, line.span.start + byteSize line.content⟩ ∧
        (∀ kind, kind ≠ .code → (ml.kind = kind ↔ ∃ front, EndsWithTag kind (trim rest) front)) ∧
        (∀ kind front, EndsWithTag kind (trim rest) front →
          ml.title = if trimEnd front = [] then none else some (trimEnd front)) ∧
        (ml.kind = .code → ml.title = if trim rest = [] then none else some (trim rest)) ∧
        ∀ title, ml.title = some title → title ≠ [] ∧ IsTrimmed title) ∧
      ∀ kind : CellKind, ∀ tag ∈ kind.tags, ∀ title ending, title ≠ [] → IsTrimmed title →
        (∀ c ∈ ending, c = '\r' ∨ c = '\n') →
        line.text = marker ++ ' ' :: (title ++ ' ' :: '[' :: tag ++ [']']) ++ ending →
        ∃ ml, ofLine? marker line = some ml ∧ ml.kind = kind ∧ ml.title = some title := by
  refine ⟨content_eq_iff.1 rfl, ?found, ?read, ?tagged⟩
  case found =>
    simp only [ofLine?_eq_some_iff, endsMarker_iff]
    constructor
    · rintro ⟨ml, rest, hcontent, hends, -⟩
      exact ⟨rest, hcontent, hends⟩
    · rintro ⟨rest, hcontent, hends⟩
      exact ⟨_, rest, hcontent, hends, rfl⟩
  case read =>
    intro rest ml hcontent h
    obtain ⟨rest', hcontent', -, rfl⟩ := ofLine?_eq_some_iff.1 h
    obtain rfl : rest' = rest := List.append_cancel_left (hcontent'.symm.trans hcontent)
    refine ⟨rfl, fun kind hne => kind_titleAndKind_iff hne, fun kind front htag => ?_,
      fun hcode => ?_, fun title htitle => ?_⟩
    · rw [ofRest, titleAndKind_of_endsWithTag htag]
    · have hnot : ∀ kind front, ¬EndsWithTag kind (trim rest') front := fun kind front htag => by
        have hkind := (kind_titleAndKind_iff htag.kind_ne_code).2 ⟨front, htag⟩
        exact htag.kind_ne_code (hkind.symm.trans hcode)
      rw [ofRest, titleAndKind_of_not_endsWithTag hnot]
    · rw [ofRest] at htitle
      dsimp only at htitle
      split at htitle
      next => simp at htitle
      next hne =>
        obtain rfl := Option.some.inj htitle
        exact ⟨hne, isTrimmed_titleAndKind (isTrimmed_trim rest')⟩
  case tagged =>
    intro kind tag htag title ending hne htrimmed hending htext
    have hcontent : line.content = marker ++ ' ' :: (title ++ ' ' :: '[' :: tag ++ [']']) := by
      refine content_eq_iff.2 ⟨ending, htext, hending, fun c hc => ?_⟩
      have hlast : (marker ++ ' ' :: (title ++ ' ' :: '[' :: tag ++ [']'])).getLast? = some ']' :=
        List.getLast?_eq_some_iff.2 ⟨marker ++ ' ' :: (title ++ ' ' :: '[' :: tag), by simp⟩
      rw [hlast] at hc
      obtain rfl := Option.some.inj hc
      decide
    have hends : endsMarker (' ' :: (title ++ ' ' :: '[' :: tag ++ [']'])) = true := by
      refine endsMarker_iff.2 fun c hc => .inl ?_
      obtain rfl := Option.some.inj hc
      decide
    exact ⟨_, ofLine?_eq_some_iff.2 ⟨_, hcontent, hends, rfl⟩, ofRest_title htag hne htrimmed line⟩

/-- A tag in capitals between two blanks, and a tag as it stands in the list, each behind a title
that ends in brackets too. -/
theorem ofLine?_grammar_tagged :
    (∃ ml, ofLine? "# %%".toList ⟨⟨7, 26⟩, "# %% a [b] [ MD ]\r\n".toList⟩ = some ml ∧
      ml.span = ⟨7, 24⟩ ∧ ml.kind = .markdown ∧ ml.title = some "a [b]".toList) ∧
    ∃ ml, ofLine? "# %%".toList ⟨⟨26, 42⟩, "# %% a [b] [raw]".toList⟩ = some ml ∧
      ml.kind = .raw ∧ ml.title = some "a [b]".toList := by
  constructor
  · obtain ⟨-, hfound, hread, -⟩ :=
      ofLine?_grammar "# %%".toList ⟨⟨7, 26⟩, "# %% a [b] [ MD ]\r\n".toList⟩
    obtain ⟨ml, hml⟩ := hfound.2 ⟨" a [b] [ MD ]".toList, by decide, endsMarker_iff.1 (by decide)⟩
    obtain ⟨hspan, hkind, htitle, -⟩ := hread " a [b] [ MD ]".toList ml (by decide) hml
    have htag : EndsWithTag .markdown (trim " a [b] [ MD ]".toList) "a [b] ".toList :=
      ⟨" MD ".toList, by decide, by decide, by decide⟩
    exact ⟨ml, hml, hspan, (hkind .markdown (by decide)).2 ⟨_, htag⟩, htitle .markdown _ htag⟩
  · obtain ⟨-, -, -, htagged⟩ :=
      ofLine?_grammar "# %%".toList ⟨⟨26, 42⟩, "# %% a [b] [raw]".toList⟩
    exact htagged .raw "raw".toList (by decide) "a [b]".toList [] (by decide) (by decide)
      (List.forall_mem_nil _) (by decide)

end MarkerLine

end NotebookLayout
