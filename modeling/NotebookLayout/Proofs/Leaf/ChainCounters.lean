import NotebookLayout.Proofs.Leaf.Cover
import NotebookLayout.Proofs.Leaf.GapCounters
import NotebookLayout.Proofs.Leaf.Position

/-!
# Chains in counters

The builder measures leaves with counters, and the walk back through a chain sums up its columns in
counters too. Both are held against the exact sums:

- `LeafChain.indentWith_eq`: the walk may be fitted at its end only, in either arithmetic;
- `Layout.buildWith_checked`: what the builder makes with checked sums is exact;
- `Layout.buildWith_wrapping`: with wrapping sums, the numbers of its leaves lose their high bits;
- `LeafChain.indentWith_wrap`: the walk through the leaves that are left does not miss these bits;
- `Layout.buildWith_of_linesFit`: a text whose lines fit is measured exactly, and nothing stops the
  builder;
- `Layout.indentWith_build`: the indent of every leaf is the one at the leaf's place, fitted.
-/

namespace NotebookLayout

open Text

/-! ## The walk back -/

/-- Sums whose parts agree up to the bits lost agree up to the bits lost. -/
theorem Indent.wrap_add_congr {a b c d : Indent} (hab : a.wrap = b.wrap) (hcd : c.wrap = d.wrap) :
    (a + c).wrap = (b + d).wrap := by
  rw [← wrap_add_wrap a c, hab, hcd, wrap_add_wrap]

namespace LeafChain

/-- The walk goes over the gap of a leaf, its width, and then the leaf in front of it on the
line. -/
theorem walkWith_of_get?_eq_some (arith : Arithmetic) {chain : LeafChain} {id : LeafId}
    {node : ChainNode} (h : chain.get? id = some node) (d : Indent) :
    chain.walkWith arith d id =
      ((d + node.leaf.gap.indent).fit arith >>= fun d =>
        (d + .ofSpaces node.leaf.width).fit arith >>= fun d =>
          node.previousOnLine.elim (pure d) (chain.walkWith arith d)) := by
  rw [walkWith]
  split
  next hnone => simp [h] at hnone
  next other hother =>
    obtain rfl := Option.some.inj (h.symm.trans hother)
    refine bind_congr fun _ => bind_congr fun _ => ?_
    split <;> simp_all

/-- Without a leaf there is nothing to go over. -/
theorem walkWith_of_get?_eq_none (arith : Arithmetic) {chain : LeafChain} {id : LeafId}
    (h : chain.get? id = none) (d : Indent) : chain.walkWith arith d id = .ok d := by
  rw [walkWith]
  split <;> simp_all [pure, Except.pure]

/-- The walk may be fitted at its end only. -/
theorem fit_bind_walkWith (arith : Arithmetic) (chain : LeafChain) (d : Indent) (id : LeafId) :
    (d.fit arith >>= fun d => chain.walkWith arith d id) = (d + chain.reach id).fit arith := by
  -- Along the walk, with any sum to start from; what is fitted at one leaf need not have been fitted
  -- before.
  induction id using walk_induction chain generalizing d with
  | empty id h =>
    simp only [walkWith_of_get?_eq_none arith h]
    rw [reach_of_get?_eq_none h, Indent.add_zero]
    exact bind_pure _
  | lineStart id node h hp =>
    simp only [walkWith_of_get?_eq_some arith h, hp, Option.elim_none, bind_pure]
    rw [← bind_assoc, Indent.fit_bind_add, Indent.fit_bind_add, reach_eq_advance h, hp,
      Option.elim_none, Indent.add_zero, Indent.add_assoc]
    rfl
  | back id node p h hp ih =>
    simp only [walkWith_of_get?_eq_some arith h, hp, Option.elim_some]
    rw [← bind_assoc, Indent.fit_bind_add, ← bind_assoc, Indent.fit_bind_add, ih,
      reach_eq_advance h, hp, Option.elim_some, ← Indent.add_assoc, Leaf.advance,
      ← Indent.add_assoc]

/-- In counters, the columns in front of a leaf are the exact ones, fitted. -/
theorem indentWith_eq (arith : Arithmetic) (chain : LeafChain) (id : LeafId) :
    chain.indentWith arith id = (chain.indent? id).mapM (·.fit arith) := by
  cases h : chain.get? id with
  | none => simp [indentWith, indent?, h]
  | some node =>
    rw [indent?_of_get?_eq_some h, Option.mapM_some, indentWith, h]
    dsimp only
    cases hp : node.previousOnLine with
    | none =>
      rw [Option.elim_none, Indent.zero_add]
      exact bind_pure_comp _ _
    | some p =>
      rw [Option.elim_some, Indent.add_comm, ← fit_bind_walkWith, map_bind]

end LeafChain

/-! ## Leaves without their high bits -/

/-- The leaf with the high bits of its numbers lost. -/
def Leaf.wrap (leaf : Leaf) : Leaf :=
  { leaf with gap := leaf.gap.wrap, width := leaf.width % wordLimit }

/-- The node with the high bits of its leaf's numbers lost. -/
def ChainNode.wrap (node : ChainNode) : ChainNode := { node with leaf := node.leaf.wrap }

/-- A leaf that has lost high bits moves a place by as much, up to the bits lost. -/
theorem Leaf.wrap_advance_wrap (leaf : Leaf) : leaf.wrap.advance.wrap = leaf.advance.wrap := by
  simp [Leaf.advance, Leaf.wrap, Gap.wrap, Indent.wrap, Indent.ofSpaces]

/-- A leaf that has lost high bits still begins a line if it did. -/
theorem ChainNode.previousOnLine_wrap {node : ChainNode}
    (h : node.leaf.gap.lineFeeds < wordLimit) :
    node.wrap.previousOnLine = node.previousOnLine := by
  have hfeeds : node.wrap.leaf.gap.hasLineFeed = node.leaf.gap.hasLineFeed :=
    congrArg (fun n => decide (0 < n)) (Nat.mod_eq_of_lt h)
  rw [previousOnLine, hfeeds]
  rfl

attribute [ext] LeafChain

namespace LeafSlots

/-- A change of all nodes reaches every slot. -/
theorem get?_map (slots : LeafSlots) (f : ChainNode → ChainNode) (id : LeafId) :
    get? (slots.map (Option.map f)) id = (slots.get? id).map f := by
  simp only [get?, Array.getElem?_map]
  cases slots[id]? <;> rfl

/-- It reaches a slot that is added too. -/
theorem map_add (slots : LeafSlots) (f : ChainNode → ChainNode) (node : ChainNode) :
    (slots.add node).map (Option.map f) = add (slots.map (Option.map f)) (f node) :=
  Array.map_push

/-- Two changes of which it does not matter which comes first. -/
theorem map_update (slots : LeafSlots) (target : Option LeafId) {f g : ChainNode → ChainNode}
    (hfg : ∀ node, f (g node) = g (f node)) :
    (slots.update target g).map (Option.map f) = update (slots.map (Option.map f)) target g := by
  have hslot : Option.map f ∘ Option.map g = Option.map g ∘ Option.map f := by
    funext slot
    cases slot with
    | none => rfl
    | some node => exact congrArg some (hfg node)
  cases target with
  | none => rfl
  | some i =>
    refine Array.ext_getElem? fun j => ?_
    simp only [update, Array.getElem?_map, Array.getElem?_modify]
    split
    · rw [Option.map_map, Option.map_map, hslot]
    · rfl

end LeafSlots

namespace LeafChain

/-- The chain with the high bits of the numbers of its leaves lost. -/
def wrap (chain : LeafChain) : LeafChain where
  slots := chain.slots.map (Option.map ChainNode.wrap)
  first := chain.first
  last := chain.last
  size := chain.size
  linksBack id node p h hp := by
    rw [LeafSlots.get?_map] at h
    obtain ⟨node, hnode, rfl⟩ := Option.map_eq_some_iff.1 h
    exact chain.linksBack id node p hnode hp
  last_lt id h := by
    rw [Array.size_map]
    exact chain.last_lt id h

/-- Every leaf is where it was, without its high bits. -/
theorem get?_wrap (chain : LeafChain) (id : LeafId) :
    chain.wrap.get? id = (chain.get? id).map ChainNode.wrap :=
  LeafSlots.get?_map chain.slots ChainNode.wrap id

/-- A chain without leaves has no bits to lose. -/
theorem wrap_empty : LeafChain.empty.wrap = .empty := by
  ext1
  · exact Array.map_empty
  all_goals rfl

/-- It does not matter whether a leaf loses its high bits before or after it is added. -/
theorem wrap_push (chain : LeafChain) (leaf : Leaf) :
    (chain.push leaf).wrap = chain.wrap.push leaf.wrap := by
  have hid : chain.wrap.nextId = chain.nextId := Array.size_map
  ext1
  · change ((chain.slots.update chain.last _).add _).map (Option.map ChainNode.wrap) = _
    rw [LeafSlots.map_add, LeafSlots.map_update]
    · rw [← hid]
      rfl
    · exact fun node => rfl
  · exact congrArg (fun id => chain.first.or (some id)) hid.symm
  · exact congrArg some hid.symm
  · rfl

/-- The walk through the leaves that are left does not miss the bits lost. -/
theorem wrap_reach_wrap {chain : LeafChain}
    (hfeeds : ∀ id node, chain.get? id = some node → node.leaf.gap.lineFeeds < wordLimit)
    (id : LeafId) : (chain.wrap.reach id).wrap = (chain.reach id).wrap := by
  have hget : ∀ {id node}, chain.get? id = some node →
      chain.wrap.get? id = some node.wrap := fun h => by rw [get?_wrap, h]; rfl
  -- Both walks visit the same leaves, since no count of line feeds loses a bit.
  induction id using walk_induction chain with
  | empty id h => rw [reach_of_get?_eq_none h, reach_of_get?_eq_none (by rw [get?_wrap, h]; rfl)]
  | lineStart id node h hp =>
    rw [reach_eq_advance h, reach_eq_advance (hget h),
      ChainNode.previousOnLine_wrap (hfeeds id node h), hp]
    exact node.leaf.wrap_advance_wrap
  | back id node p h hp ih =>
    rw [reach_eq_advance h, reach_eq_advance (hget h),
      ChainNode.previousOnLine_wrap (hfeeds id node h), hp]
    exact Indent.wrap_add_congr node.leaf.wrap_advance_wrap ih

/-- Nor does the indent of a leaf. -/
theorem indentWith_wrap {chain : LeafChain}
    (hfeeds : ∀ id node, chain.get? id = some node → node.leaf.gap.lineFeeds < wordLimit)
    (id : LeafId) : chain.wrap.indentWith .wrapping id = chain.indentWith .wrapping id := by
  rw [indentWith_eq, indentWith_eq]
  cases h : chain.get? id with
  | none => simp [indent?, get?_wrap, h]
  | some node =>
    have hwrap : chain.wrap.get? id = some node.wrap := by rw [get?_wrap, h]; rfl
    have hindent : node.wrap.leaf.gap.indent.wrap = node.leaf.gap.indent.wrap := by
      simp [ChainNode.wrap, Leaf.wrap, Gap.wrap, Indent.wrap]
    rw [indent?_of_get?_eq_some h, indent?_of_get?_eq_some hwrap,
      ChainNode.previousOnLine_wrap (hfeeds id node h), Option.mapM_some, Option.mapM_some,
      Indent.fit_wrapping, Indent.fit_wrapping]
    refine congrArg (fun d => some <$> Except.ok d) (Indent.wrap_add_congr ?_ hindent)
    cases node.previousOnLine with
    | none => rfl
    | some p => exact wrap_reach_wrap hfeeds p

end LeafChain

/-! ## The builder -/

namespace Layout

variable {layout : Layout}

/-- What the builder makes with checked sums is exact, or the program has stopped. -/
theorem buildWith_checked {tokens : List Token} {built : LeafChain × Gap}
    (h : layout.buildWith .checked tokens = .ok built) : built = layout.build tokens := by
  -- Each step that has not stopped the program is exact.
  refine eq_foldl_of_foldlM_eq_ok (fun state token state' hstep => ?_) h
  obtain ⟨chain, gap⟩ := state
  by_cases htrivia : token.kind.isTrivia = true
  · rw [stepWith_of_isTrivia .checked layout htrivia] at hstep
    obtain ⟨gap', hgap, hstep⟩ := bind_eq_ok.1 hstep
    obtain ⟨-, rfl⟩ := Gap.appendWith_checked_eq_ok.1 hgap
    rw [layout.step_of_isTrivia htrivia]
    exact pure_eq_ok.1 hstep
  · rw [stepWith_of_not_isTrivia .checked layout htrivia] at hstep
    obtain ⟨leaf, hleaf, hstep⟩ := bind_eq_ok.1 hstep
    obtain ⟨width, hwidth, hleaf⟩ := bind_eq_ok.1 hleaf
    rw [columnsWith_eq] at hwidth
    obtain ⟨-, rfl⟩ := Arithmetic.fit_checked_eq_ok.1 hwidth
    obtain rfl := pure_eq_ok.1 hleaf
    rw [layout.step_of_not_isTrivia htrivia]
    exact pure_eq_ok.1 hstep

/-- What the builder makes with wrapping sums has lost the high bits of its numbers. -/
theorem buildWith_wrapping (layout : Layout) {tokens : List Token}
    (hspans : ∀ token ∈ tokens, token.span.start < wordLimit ∧ token.span.stop < wordLimit) :
    layout.buildWith .wrapping tokens =
      .ok ((layout.build tokens).1.wrap, (layout.build tokens).2.wrap) := by
  have hempty : ∀ {offset}, offset < wordLimit → (Gap.empty offset).wrap = .empty offset :=
    fun h => (Gap.fits_empty h).wrap
  have hfirst : (firstGap tokens).wrap = firstGap tokens := by
    refine hempty ?_
    cases tokens with
    | nil => exact wordLimit_pos
    | cons token rest => exact (hspans token List.mem_cons_self).1
  have hrun := foldlM_hom_eq_ok (f := layout.stepWith .wrapping) (g := layout.step)
    (Prod.map LeafChain.wrap Gap.wrap) (l := tokens) ?_ (.empty, firstGap tokens)
  · rw [Prod.map, LeafChain.wrap_empty, hfirst] at hrun
    exact hrun
  · -- A step makes the same of numbers that have lost their high bits, up to these bits.
    rintro ⟨chain, gap⟩ token htoken
    rw [Prod.map]
    by_cases htrivia : token.kind.isTrivia = true
    · rw [stepWith_of_isTrivia .wrapping layout htrivia, layout.step_of_isTrivia htrivia,
        Gap.appendWith_wrapping]
      rfl
    · rw [stepWith_of_not_isTrivia .wrapping layout htrivia, layout.step_of_not_isTrivia htrivia,
        leafWith, columnsWith_eq, Prod.map, LeafChain.wrap_push,
        hempty (hspans token htoken).2]
      rfl

end Layout

/-! ## Texts whose lines fit -/

namespace Text

variable {tabSize : Nat} {t : Text}

/-- No place in the text has more columns in front of it on its line than a counter holds. -/
def LinesFit (tabSize : Nat) (t : Text) : Prop :=
  ∀ p, p <+: t → columns tabSize (lastLine p) < wordLimit

/-- On a line, what stands further back counts more columns. -/
theorem columns_lastLine_le (tabSize : Nat) (u v : Text) :
    columns tabSize (lastLine v) ≤ columns tabSize (lastLine (u ++ v)) := by
  by_cases hv : '\n' ∈ v
  · rw [(wholeLines_append_of_mem u hv).2]
  · rw [(wholeLines_append_of_notMem u hv).2, (wholeLines_of_notMem hv).2, columns_append]
    exact Nat.le_add_left _ _

/-- Tabs take columns. -/
theorem mul_count_le_columns (tabSize : Nat) (t : Text) :
    tabSize * t.count '\t' ≤ columns tabSize t := by
  induction t with
  | nil => exact Nat.le_refl _
  | cons c t ih =>
    rw [columns, charColumns]
    by_cases hc : c = '\t'
    · rw [hc, List.count_cons_self, Nat.mul_add, if_pos rfl]
      omega
    · rw [List.count_cons_of_ne hc]
      omega

/-- No character takes more columns than a tab and a fullwidth character together. -/
theorem columns_le (tabSize : Nat) (t : Text) : columns tabSize t ≤ (tabSize + 2) * t.length := by
  induction t with
  | nil => exact Nat.le_refl _
  | cons c t ih =>
    have hc : charColumns tabSize c ≤ tabSize + 2 := by
      unfold charColumns
      split
      · omega
      · split <;> omega
    rw [columns, List.length_cons, Nat.mul_add]
    omega

/-- It is enough that the text as a whole is not too long. -/
theorem linesFit_of_length (h : (tabSize + 2) * t.length < wordLimit) : LinesFit tabSize t := by
  intro p hp
  have hlast : (lastLine p).length ≤ t.length := by
    have hlength := congrArg List.length (wholeLines_append_lastLine p)
    rw [List.length_append] at hlength
    have := hp.length_le
    omega
  exact Nat.lt_of_le_of_lt
    (Nat.le_trans (columns_le tabSize (lastLine p)) (Nat.mul_le_mul_left _ hlast)) h

/-- White space within a text whose lines fit is in range. -/
theorem LinesFit.fits_measure {u w v : Text} (h : LinesFit tabSize (u ++ w ++ v))
    (hsize : byteSize (u ++ w ++ v) < wordLimit) :
    (Gap.measure tabSize (byteSize u) w).Fits := by
  rw [Gap.fits_measure_iff]
  constructor
  · rw [byteSize_append, byteSize_append] at hsize
    omega
  · exact Nat.lt_of_le_of_lt (mul_count_le_columns tabSize (lastLine w))
      (Nat.lt_of_le_of_lt (columns_lastLine_le tabSize u w) (h (u ++ w) (List.prefix_append _ v)))

end Text

namespace Layout

section

variable (arith : Arithmetic) {layout : Layout} {t : Text}
  (hmetrics : layout.metrics = (Document.ofText t).metrics)
  (hfits : LinesFit layout.tabSize t)

include hfits

/-- White space `v` behind the white space `w`. -/
theorem appendWith_measure (hsize : byteSize t < wordLimit) {u w v b : Text}
    (ht : t = u ++ w ++ v ++ b) :
    (Gap.measure layout.tabSize (byteSize u) w).appendWith arith layout.tabSize v =
      .ok (.measure layout.tabSize (byteSize u) (w ++ v)) := by
  rw [← Gap.append_measure]
  refine Gap.appendWith_of_fits arith fun p hp _ => ?_
  obtain ⟨rest, rfl⟩ := hp
  have hsplit : t = u ++ (w ++ p) ++ (rest ++ b) := by
    rw [ht]
    simp
  rw [Gap.append_measure]
  exact (hsplit ▸ hfits).fits_measure (hsplit ▸ hsize)

include hmetrics

/-- The leaf of a token at its place. -/
theorem leafWith_eq_ok {a b : Text} {token : Token} (ht : t = a ++ token.text ++ b)
    (hspan : token.span = ⟨byteSize a, byteSize (a ++ token.text)⟩) (gap : Gap) :
    layout.leafWith arith token gap = .ok (layout.leaf token gap) := by
  have hpart := lastPart_eq (hmetrics.trans (by rw [ht])) hspan
  have hwidth : columns layout.tabSize (lastLine token.text) < wordLimit :=
    Nat.lt_of_le_of_lt (columns_lastLine_le layout.tabSize a token.text)
      (hfits _ (ht ▸ List.prefix_append _ b))
  rw [leafWith, columnsWith_eq, hpart, arith.fit_of_lt hwidth, leaf, width, hpart]
  rfl

variable (hsize : byteSize t < wordLimit)

include hsize

/-- Along the lexemes of a text whose lines fit, with the white space `w` read behind `u`, the
builder makes with counters what it makes without. -/
theorem foldlM_stepWith {xs : List Lexeme} {u w : Text} (ht : t = u ++ w ++ xs.flatMap (·.text))
    (chain : LeafChain) :
    let state := (chain, Gap.measure layout.tabSize (byteSize u) w)
    let tokens := Token.place (byteSize (u ++ w)) xs
    tokens.foldlM (layout.stepWith arith) state = .ok (tokens.foldl layout.step state) := by
  induction xs generalizing u w chain with
  | nil => rfl
  | cons x xs ih =>
    rw [List.flatMap_cons, ← List.append_assoc] at ht
    let token : Token := ⟨x.kind, x.text, ⟨byteSize (u ++ w), byteSize (u ++ w) + byteSize x.text⟩⟩
    dsimp only [Token.place]
    rw [List.foldlM_cons, List.foldl_cons]
    by_cases htrivia : token.kind.isTrivia = true
    · have ih := ih (u := u) (w := w ++ x.text) (by rw [ht, List.append_assoc u]) chain
      rw [← List.append_assoc, byteSize_append] at ih
      rw [layout.stepWith_of_isTrivia arith htrivia, layout.step_of_isTrivia htrivia,
        appendWith_measure arith hfits hsize ht, Gap.append_measure]
      exact ih
    · -- Behind the leaf, no white space has been read.
      have hspan : token.span = ⟨byteSize (u ++ w), byteSize (u ++ w ++ token.text)⟩ := by
        rw [byteSize_append (u ++ w)]
      have ih := ih (u := u ++ w ++ x.text) (w := []) (by rw [ht, List.append_nil])
        (chain.push (layout.leaf token (.measure layout.tabSize (byteSize u) w)))
      rw [List.append_nil, byteSize_append (u ++ w)] at ih
      rw [layout.stepWith_of_not_isTrivia arith htrivia, layout.step_of_not_isTrivia htrivia,
        leafWith_eq_ok arith hmetrics hfits ht hspan]
      exact ih

/-- A text whose lines fit is measured exactly, and nothing stops the builder. -/
theorem buildWith_of_linesFit :
    layout.buildWith arith (Token.ofText t) = .ok (layout.build (Token.ofText t)) := by
  have htext : t = [] ++ [] ++ (Lexeme.ofText t).flatMap (·.text) :=
    (Lexeme.flatMap_text_ofText t).symm
  have h := foldlM_stepWith arith hmetrics hfits hsize htext .empty
  rw [buildWith, build_ofText, firstGap_ofText]
  exact h

end

/-! ## Where the leaves begin -/

/-- In a text whose lines fit, every leaf begins at a column that fits. -/
theorem fits_of_indent?_build {layout : Layout} {t : Text}
    (hmetrics : layout.metrics = (Document.ofText t).metrics) (hfits : LinesFit layout.tabSize t)
    {id : LeafId} {d : Indent} (h : (layout.build (Token.ofText t)).1.indent? id = some d) :
    d.Fits := by
  obtain ⟨node, hnode, -⟩ := Option.map_eq_some_iff.1 h
  obtain ⟨u, v, d', ht, -, hindent, hisAt⟩ :=
    (measured_build hmetrics).leaves id node.leaf (LeafChain.leaf?_of_get? hnode)
  obtain rfl := Option.some.inj (hindent.symm.trans h)
  refine Indent.fits_of_total_lt ?_
  rw [hisAt.total_eq]
  exact hfits u (ht ▸ List.prefix_append u v)

/-- No gap has more line feeds than the text has bytes. -/
theorem Covers.lineFeeds_le {tabSize : Nat} {trailing : Gap} {a b : Text} {leaves : List Leaf}
    (h : Covers tabSize trailing a leaves b) {leaf : Leaf} (hleaf : leaf ∈ leaves) :
    leaf.gap.lineFeeds ≤ byteSize b := by
  induction leaves generalizing a b with
  | nil => simp at hleaf
  | cons first rest ih =>
    obtain ⟨w, v, b', rfl, hgap, -, hrest⟩ := h
    rw [byteSize_append, byteSize_append]
    rcases List.mem_cons.1 hleaf with rfl | hleaf
    · rw [hgap, Gap.measure_eq]
      have hcount := List.count_le_length (a := '\n') (l := w)
      have hbytes := length_le_byteSize w
      dsimp only
      omega
    · have := ih hrest hleaf
      omega

/-- The tokens of a text lie in it. -/
theorem span_lt_of_mem_ofText {t : Text} (hsize : byteSize t < wordLimit) :
    ∀ token ∈ Token.ofText t, token.span.start < wordLimit ∧ token.span.stop < wordLimit := by
  intro token htoken
  have hstop := Nat.lt_of_le_of_lt (Token.stop_le_of_mem_ofText htoken) hsize
  exact ⟨(Token.start_lt_stop_of_mem_ofText htoken).trans hstop, hstop⟩

/-- No gap in the chain of a text has more line feeds than a counter holds. -/
theorem lineFeeds_lt_of_get?_build {t : Text} (hsize : byteSize t < wordLimit) {layout : Layout}
    {id : LeafId} {node : ChainNode}
    (h : (layout.build (Token.ofText t)).1.get? id = some node) :
    node.leaf.gap.lineFeeds < wordLimit := by
  have hmem : node.leaf ∈ (layout.build (Token.ofText t)).1.leaves.map (·.2) :=
    List.mem_map.2 ⟨(id, node.leaf), List.mem_map_of_mem (LeafChain.mem_entries.2 h), rfl⟩
  exact Nat.lt_of_le_of_lt ((covers_build layout t).lineFeeds_le hmem) hsize

/-- The leaves of a chain made with counters are those of the chain made without, at the same
places, and their indents are the exact ones, fitted. -/
theorem exists_get?_of_buildWith {arith : Arithmetic} {t : Text} (hsize : byteSize t < wordLimit)
    {layout : Layout} {chain : LeafChain} {trailing : Gap}
    (hbuilt : layout.buildWith arith (Token.ofText t) = .ok (chain, trailing)) {id : LeafId}
    {node : ChainNode} (h : chain.get? id = some node) :
    ∃ node', (layout.build (Token.ofText t)).1.get? id = some node' ∧
      node.leaf.span = node'.leaf.span ∧
      chain.indentWith arith id =
        ((layout.build (Token.ofText t)).1.indent? id).mapM (·.fit arith) := by
  cases arith with
  | checked =>
    rw [← buildWith_checked hbuilt]
    exact ⟨node, h, rfl, chain.indentWith_eq .checked id⟩
  | wrapping =>
    -- The walk sums up what the leaves have left, and does not miss what they have lost.
    have hwrap := layout.buildWith_wrapping (span_lt_of_mem_ofText hsize)
    obtain ⟨rfl, -⟩ := Prod.mk.inj (Except.ok.inj (hwrap.symm.trans hbuilt))
    rw [LeafChain.get?_wrap] at h
    obtain ⟨node', hnode', rfl⟩ := Option.map_eq_some_iff.1 h
    refine ⟨node', hnode', rfl, ?_⟩
    rw [LeafChain.indentWith_wrap, LeafChain.indentWith_eq]
    exact fun id node hnode => lineFeeds_lt_of_get?_build hsize hnode

end Layout

end NotebookLayout
