import EmailComposer.Proofs.Token.Expand
import EmailComposer.Proofs.Token.Skip
import EmailComposer.Proofs.Token.Weave

namespace EmailComposer.Token

/-!
# The markup of expanded text

Expanding formatting tokens brings in spans and links and nothing else. A pass may meet the
tags of the passes before it anywhere in a token, but a token begins and ends with braces, and
these tags hold none: so a tag is kept or left out as a whole. Only links may hold braces, in
their addresses, and no pass follows theirs.
-/

open EmailComposer.Text

/-! ## Inline tags -/

/-- The weights of spans. -/
def spanWeights : List Text :=
  ["400", "600", "700"]

/-- The weights of links. -/
def linkWeights : List Text :=
  ["600", "700"]

/-- The declarations of a color, of a weight, or of both. -/
inductive IsDeclarationList : Text → Prop where
  | color
      {color : Text}
      (isHex : Color.isHex color = true) :
      IsDeclarationList ("color:" ++ color ++ ";")
  | weight
      {weight : Text}
      (isWeight : weight ∈ spanWeights) :
      IsDeclarationList ("font-weight:" ++ weight ++ ";")
  | both
      {color weight : Text}
      (isHex : Color.isHex color = true)
      (isWeight : weight ∈ spanWeights) :
      IsDeclarationList ("color:" ++ color ++ ";font-weight:" ++ weight ++ ";")

/-- The four tags that formatting tokens become. -/
inductive IsInlineTag : Text → Prop where
  | span
      {declarations : Text}
      (declares : IsDeclarationList declarations) :
      IsInlineTag ("<span style=\"" ++ declarations ++ "\">")
  | spanEnd : IsInlineTag "</span>"
  | link
      {url color weight : Text}
      (isSafe : Url.isSafeLink url = true)
      (isHex : Color.isHex color = true)
      (isWeight : weight ∈ linkWeights) :
      IsInlineTag ("<a href=\"" ++ url ++ "\" style=\"color:" ++ color ++
        ";text-decoration:none;font-weight:" ++ weight ++
          ";\" target=\"_blank\" rel=\"noopener noreferrer\">")
  | linkEnd : IsInlineTag "</a>"

/-- Declarations hold neither brackets nor braces. -/
theorem IsDeclarationList.avoids
    {declarations : Text}
    (declares : IsDeclarationList declarations) :
    Avoids ['<', '>', '{', '}'] declarations := by
  have ofColor : ∀ {color : Text}, Color.isHex color = true →
      Avoids ['<', '>', '{', '}'] color :=
    fun isHex => avoids_of_isHex isHex (by decide)
  have ofWeight : ∀ weight ∈ spanWeights, Avoids ['<', '>', '{', '}'] weight := by
    decide
  cases declares with
  | color isHex => exact (Avoids.append (by decide) (ofColor isHex)).append (by decide)
  | weight isWeight => exact (Avoids.append (by decide) (ofWeight _ isWeight)).append (by decide)
  | both isHex isWeight =>
      exact (((Avoids.append (by decide) (ofColor isHex)).append (by decide)).append
        (ofWeight _ isWeight)).append (by decide)

/-- An address that may be linked holds no bracket. -/
theorem avoids_of_isSafeLink
    {url : Text}
    (isSafe : Url.isSafeLink url = true) :
    Avoids ['<', '>'] url := by
  intro char member isBracket
  simp only [Url.isSafeLink, Bool.and_eq_true, Bool.not_eq_true', List.any_eq_false] at isSafe
  refine isSafe.1.2 char member ?_
  simp only [List.mem_cons, List.not_mem_nil, or_false] at isBracket
  rcases isBracket with rfl | rfl <;> decide

/-- A tag stands between two brackets, and there is none inside it. -/
theorem IsInlineTag.exists_between
    {tag : Text}
    (isTag : IsInlineTag tag) :
    ∃ between, tag = '<' :: (between ++ ['>']) ∧ Avoids ['<', '>'] between := by
  cases isTag with
  | @span declarations declares =>
      have avoids : Avoids ['<', '>'] declarations := declares.avoids.of_subset (by decide)
      refine ⟨"span style=\"" ++ declarations ++ "\"", ?_, ?_⟩
      · simp
      · exact (Avoids.append (by decide) avoids).append (by decide)
  | spanEnd => exact ⟨"/span", rfl, by decide⟩
  | @link url color weight isSafe isHex isWeight =>
      have ofWeight : ∀ weight ∈ linkWeights, Avoids ['<', '>'] weight := by
        decide
      refine ⟨"a href=\"" ++ url ++ "\" style=\"color:" ++ color ++
        ";text-decoration:none;font-weight:" ++ weight ++
          ";\" target=\"_blank\" rel=\"noopener noreferrer\"", ?_, ?_⟩
      · simp
      · exact (((((Avoids.append (by decide) (avoids_of_isSafeLink isSafe)).append
          (by decide)).append (avoids_of_isHex isHex (by decide))).append (by decide)).append
            (ofWeight weight isWeight)).append (by decide)
  | linkEnd => exact ⟨"/a", rfl, by decide⟩

/-- An inline tag without braces, which no token begins or ends in. -/
structure IsUncutTag (tag : Text) : Prop where
  isTag : IsInlineTag tag
  noBrace : Avoids ['{', '}'] tag

theorem isUncutTag_span
    {declarations : Text}
    (declares : IsDeclarationList declarations) :
    IsUncutTag ("<span style=\"" ++ declarations ++ "\">") where
  isTag := .span declares
  noBrace :=
    (Avoids.append (by decide) (declares.avoids.of_subset (by decide))).append (by decide)

theorem isUncutTag_spanEnd : IsUncutTag "</span>" where
  isTag := .spanEnd
  noBrace := by decide

/-! ## Passes -/

/-- Neither brace. -/
def isNoBrace (char : Char) : Bool :=
  char ∉ ['{', '}']

/-- A strand that a pass meets: a typed character, or a tag of the passes before. -/
def IsMet (strand : Strand) : Prop :=
  (∃ char, strand = .typed char) ∨ ∃ tag, strand = .made tag ∧ IsUncutTag tag

/-- A pass shows the content of a span as it is, or between two admitted tags. -/
def ShowsBetween
    (accepts : Text → Bool)
    (display : Span → Text)
    (admits : Text → Prop) : Prop :=
  ∀ span,
    accepts span.spec = true →
    display span = span.content ∨
      ∃ opening closing,
        admits opening ∧ admits closing ∧ display span = opening ++ (span.content ++ closing)

/-- The two tags of a styled span. -/
structure IsSpanPair (opening closing : Text) : Prop where
  isTag : IsUncutTag opening
  begins : "<span" <+: opening
  isEnd : closing = "</span>"

/-- The two tags of a link. -/
structure IsLinkPair (opening closing : Text) : Prop where
  isTag : IsInlineTag opening
  begins : "<a" <+: opening
  isEnd : closing = "</a>"

/-- A pass shows the content of a span as it is, or between the two tags of an element. -/
def ShowsPair
    (accepts : Text → Bool)
    (display : Span → Text)
    (isPair : Text → Text → Prop) : Prop :=
  ∀ span,
    accepts span.spec = true →
    display span = span.content ∨
      ∃ opening closing,
        isPair opening closing ∧ display span = opening ++ (span.content ++ closing)

section Pair

variable {accepts : Text → Bool} {display : Span → Text}

theorem ShowsPair.between_spanTags
    (shows : ShowsPair accepts display IsSpanPair) :
    ShowsBetween accepts display IsUncutTag := by
  intro span accepted
  refine (shows span accepted).imp_right ?_
  rintro ⟨opening, closing, isPair, framed⟩
  exact ⟨opening, closing, isPair.isTag, isPair.isEnd ▸ isUncutTag_spanEnd, framed⟩

theorem ShowsPair.between_linkTags
    (shows : ShowsPair accepts display IsLinkPair) :
    ShowsBetween accepts display IsInlineTag := by
  intro span accepted
  refine (shows span accepted).imp_right ?_
  rintro ⟨opening, closing, isPair, framed⟩
  exact ⟨opening, closing, isPair.isTag, isPair.isEnd ▸ .linkEnd, framed⟩

end Pair

theorem IsMet.isSolid
    {strand : Strand}
    (isMet : IsMet strand) :
    strand.IsSolid isNoBrace := by
  rcases isMet with ⟨char, rfl⟩ | ⟨tag, rfl, isUncut⟩
  · exact .inl ⟨char, rfl⟩
  · exact .inr fun char member => decide_eq_true (isUncut.noBrace char member)

/-- A span begins and ends with braces, and so do the parts in front of and behind its
content. -/
theorem exists_raw_parts
    (kind : Kind)
    (span : Span) :
    ∃ before behind,
      span.raw kind = before ++ (span.content ++ behind) ∧
        (Stops isNoBrace (span.raw kind) ∧ StopsAtEnd isNoBrace (span.raw kind)) ∧
          StopsAtEnd isNoBrace before ∧ Stops isNoBrace behind := by
  have openerEnd : opener kind span.spec =
      (openingMarker kind ++ (span.spec ++ ['}'])) ++ ['}'] := by
    simp [opener]
  have closingEnd : closingMarker kind = ('{' :: '{' :: '/' :: (kind.name ++ ['}'])) ++ ['}'] := by
    simp [closingMarker_eq]
  have shape := raw_append kind span.spec span.content []
  rw [List.append_nil, List.append_nil] at shape
  refine ⟨opener kind span.spec, closingMarker kind, shape, ⟨?_, ?_⟩, ?_, ?_⟩
  · rw [shape, opener, openingMarker_eq]
    exact stops_cons.mpr rfl
  · rw [shape, closingEnd, ← List.append_assoc, ← List.append_assoc]
    exact stopsAtEnd_concat _ rfl
  · rw [openerEnd]
    exact stopsAtEnd_concat _ rfl
  · rw [closingMarker_eq]
    exact stops_cons.mpr rfl

section Pass

variable {admits : Text → Prop} (admitsUncut : ∀ tag, IsUncutTag tag → admits tag)

include admitsUncut

/-- What a pass meets it may keep. -/
theorem yields_of_isMet
    {source : Weave}
    (areMet : ∀ strand ∈ source, IsMet strand) :
    source.Yields admits source.spelling := by
  refine Weave.yields_self fun tag member => ?_
  rcases areMet _ member with ⟨char, same⟩ | ⟨other, same, isUncut⟩
  · cases same
  · cases same
    exact admitsUncut tag isUncut

/-- A span comes apart into its opener, its content and its closing marker, and tags in the
opener are left out as a whole. -/
theorem weavesFrom_spans
    {kind : Kind}
    {accepts : Text → Bool}
    {display : Span → Text}
    (shows : ShowsBetween accepts display admits) :
    Weave.WeavesFrom isNoBrace IsMet (spanPattern kind accepts) display admits := by
  intro text span rest found
  obtain ⟨accepted, shape⟩ := readSpan?_eq_some found
  obtain ⟨opening, closing, parts, ⟨starts, ends⟩, openingEnds, closingStarts⟩ :=
    exists_raw_parts kind span
  refine ⟨span.raw kind, shape, starts, ends, fun source areMet spelled => ?_⟩
  obtain ⟨before, others, rfl, _, othersShape⟩ :=
    Weave.exists_split (fun strand member => (areMet strand member).isSolid)
      (spelled.trans parts) (.inl openingEnds)
  have othersMet := fun strand member => areMet strand (List.mem_append_right before member)
  obtain ⟨inner, behind, rfl, innerShape, _⟩ :=
    Weave.exists_split (fun strand member => (othersMet strand member).isSolid)
      othersShape (.inr closingStarts)
  have innerYields : inner.Yields admits span.content := by
    rw [← innerShape]
    exact yields_of_isMet admitsUncut fun strand member =>
      othersMet strand (List.mem_append_left behind member)
  rcases shows span accepted with bare | ⟨openTag, closeTag, openAdmitted, closeAdmitted, framed⟩
  · have nothingBefore : before.Yields admits [] := Weave.yields_nil
    have nothingBehind : behind.Yields admits [] := Weave.yields_nil
    rw [bare]
    simpa using nothingBefore.append (innerYields.append nothingBehind)
  · rw [framed]
    exact (Weave.yields_made openAdmitted).append
      (innerYields.append (Weave.yields_made closeAdmitted))

/-- What a pass makes of a text is woven from the strands that it meets. -/
theorem yields_replace
    {kind : Kind}
    {accepts : Text → Bool}
    {display : Span → Text}
    (shows : ShowsBetween accepts display admits)
    {source : Weave}
    (areMet : ∀ strand ∈ source, IsMet strand) :
    source.Yields admits ((spanPattern kind accepts).replace display source.spelling) := by
  have shown : Piece.render display = Weave.printPiece (fun char => [char]) display := by
    funext piece
    cases piece <;> rfl
  rw [Pattern.replace, shown]
  refine (weavesFrom_spans admitsUncut shows).yields_scan (fun _ => IsMet.isSolid) ?_ areMet
  intro strand isMet
  rw [List.flatMap_singleton']
  simpa using yields_of_isMet admitsUncut (List.forall_mem_singleton.mpr isMet)

end Pass

/-- What is woven from a text consists of its characters and of what was made. -/
theorem typed_or_made_of_isCut
    {admits : Text → Prop}
    {weave : Weave}
    {text : Text}
    (isCut : weave.IsCut admits (text.map .typed))
    {strand : Strand}
    (member : strand ∈ weave) :
    (∃ char ∈ text, strand = .typed char) ∨ ∃ tag, strand = .made tag ∧ admits tag := by
  cases strand with
  | typed char =>
      have isTyped : char ∈ weave.typed := List.mem_filterMap.mpr ⟨_, member, rfl⟩
      have inSource := isCut.typed.subset isTyped
      rw [Weave.typed_map_typed] at inSource
      exact .inl ⟨char, inSource, rfl⟩
  | made tag => exact .inr ⟨tag, rfl, isCut.made tag member⟩
  | mark entry =>
      have inSource := isCut.marks.subset (Weave.mem_marks.mpr member)
      simp [Weave.marks, Strand.mark?] at inSource

/-- One more pass over what was woven from a text. -/
theorem Weave.Yields.replace
    {admits : Text → Prop}
    (admitsUncut : ∀ tag, IsUncutTag tag → admits tag)
    {kind : Kind}
    {accepts : Text → Bool}
    {display : Span → Text}
    (shows : ShowsBetween accepts display admits)
    {text between : Text}
    (yields : Weave.Yields (text.map .typed) IsUncutTag between) :
    Weave.Yields (text.map .typed) admits ((spanPattern kind accepts).replace display between) := by
  obtain ⟨weave, rfl, isCut⟩ := yields
  have areMet : ∀ strand ∈ weave, IsMet strand := fun strand member =>
    (typed_or_made_of_isCut isCut member).imp_left fun ⟨char, _, same⟩ => ⟨char, same⟩
  exact isCut.yields (yields_replace admitsUncut shows areMet)

/-! ## The three passes -/

theorem showsPair_bold :
    ShowsPair Color.isHex boldHtml IsSpanPair := by
  intro span isHex
  have isBold : ("700" : Text) ∈ spanWeights := by
    decide
  have isTag : IsUncutTag ("<span style=\"color:" ++ span.spec ++ ";font-weight:700;\">") := by
    simpa using isUncutTag_span (.both isHex isBold)
  exact .inr ⟨_, _, ⟨isTag, ⟨_, rfl⟩, rfl⟩, List.append_assoc _ _ _⟩

/-- A style with a recognised modifier declares something. -/
theorem isDeclarationList_of_recognised
    {spec : Text}
    (recognised : (StyleSpec.read spec).recognised = true) :
    IsDeclarationList ((StyleSpec.read spec).declarations ++ ";") := by
  have isHex := StyleSpec.isHex_color spec
  have isWeight : ∀ weight : Weight, weight.value ∈ spanWeights := by
    intro weight
    cases weight <;> decide
  have isSome : (StyleSpec.read spec).weight.isSome || (StyleSpec.read spec).color.isSome := by
    rw [StyleSpec.read_eq_last] at recognised ⊢
    exact recognised
  rw [StyleSpec.declarations]
  cases chosenColor : (StyleSpec.read spec).color with
  | none =>
      cases chosenWeight : (StyleSpec.read spec).weight with
      | none => simp [chosenColor, chosenWeight] at isSome
      | some weight => simpa [joinWith] using IsDeclarationList.weight (isWeight weight)
  | some color =>
      cases chosenWeight : (StyleSpec.read spec).weight with
      | none => simpa [joinWith] using IsDeclarationList.color (isHex color chosenColor)
      | some weight =>
          simpa [joinWith] using
            IsDeclarationList.both (isHex color chosenColor) (isWeight weight)

theorem showsPair_style
    (accepts : Text → Bool) :
    ShowsPair accepts (fun span => (expandStyleSpan span).html) IsSpanPair := by
  intro span _
  dsimp only [expandStyleSpan]
  split
  · rename_i recognised
    have isTag : IsUncutTag
        ("<span style=\"" ++ (StyleSpec.read span.spec).declarations ++ ";\">") := by
      simpa using isUncutTag_span (isDeclarationList_of_recognised recognised)
    exact .inr ⟨_, _, ⟨isTag, ⟨_, rfl⟩, rfl⟩, List.append_assoc _ _ _⟩
  · exact .inl rfl

theorem showsPair_link
    (accepts : Text → Bool) :
    ShowsPair accepts (fun span => (expandLinkSpan span).html) IsLinkPair := by
  intro span _
  dsimp only [expandLinkSpan]
  split
  · rename_i isSafe
    have isWeight : (if (LinkSpec.read span.spec).bold then "700" else "600" : Text) ∈
        linkWeights := by
      split <;> decide
    have isTag := IsInlineTag.link isSafe (LinkSpec.isHex_shownColor span.spec) isWeight
    exact .inr ⟨_, _, ⟨isTag, ⟨_, rfl⟩, rfl⟩, List.append_assoc _ _ _⟩
  · exact .inl rfl

/-- Expanding the formatting tokens of a text weaves inline tags into it and leaves the rest
out or as it is. -/
theorem yields_format
    (text : Text) :
    Weave.Yields (text.map .typed) IsInlineTag (format text) := by
  have typed : Weave.Yields (text.map .typed) IsUncutTag text := by
    have yields : Weave.Yields (text.map .typed) IsUncutTag (Weave.spelling (text.map .typed)) :=
      Weave.yields_self (by simp)
    rwa [Weave.spelling_map_typed] at yields
  have bold : Weave.Yields (text.map .typed) IsUncutTag (expandBold text).html :=
    typed.replace (fun _ => id) showsPair_bold.between_spanTags
  have style : Weave.Yields (text.map .typed) IsUncutTag
      (expandSpans .style expandStyleSpan (expandBold text).html).html :=
    bold.replace (fun _ => id) (showsPair_style _).between_spanTags
  exact style.replace (fun _ => IsUncutTag.isTag) (showsPair_link _).between_linkTags

/-! ## Reading the tags back -/

/-- The characters of a text outside of brackets; the flag says whether a bracket is open. -/
def outside (isOpen : Bool) : Text → Text
  | [] => []
  | first :: rest =>
      if isOpen then
        outside (first != '>') rest
      else if first = '<' then
        outside true rest
      else
        first :: outside false rest

/-- A text without what stands from each opening bracket to the next closing one. -/
def withoutTags (text : Text) : Text :=
  outside false text

/-- A strand of bracketless text with inline tags in it. -/
def IsShown (strand : Strand) : Prop :=
  (∃ char, strand = .typed char ∧ char ≠ '<') ∨ ∃ tag, strand = .made tag ∧ IsInlineTag tag

theorem outside_append
    {between : Text}
    (avoids : Avoids ['<', '>'] between)
    (rest : Text) :
    outside true (between ++ '>' :: rest) = outside false rest := by
  induction between with
  | nil => simp [outside]
  | cons first others inductionHypothesis =>
      obtain ⟨notBracket, othersAvoid⟩ := List.forall_mem_cons.mp avoids
      have goesOn : (first != '>') = true := by
        simpa using fun same => notBracket (by simp [same])
      rw [List.cons_append, outside, if_pos rfl, goesOn, inductionHypothesis othersAvoid]

/-- A tag is deleted as a whole. -/
theorem IsInlineTag.withoutTags_append
    {tag : Text}
    (isTag : IsInlineTag tag)
    (rest : Text) :
    withoutTags (tag ++ rest) = withoutTags rest := by
  obtain ⟨between, rfl, avoids⟩ := isTag.exists_between
  rw [List.cons_append, List.append_assoc, List.singleton_append]
  exact outside_append avoids rest

section Shown

variable {weave : Weave} (areShown : ∀ strand ∈ weave, IsShown strand)

include areShown

/-- What is left without the tags are the typed characters. -/
theorem withoutTags_spelling :
    withoutTags weave.spelling = weave.typed := by
  induction weave with
  | nil => rfl
  | cons strand rest inductionHypothesis =>
      obtain ⟨isShown, restShown⟩ := List.forall_mem_cons.mp areShown
      rw [Weave.spelling_cons]
      rcases isShown with ⟨char, rfl, notBracket⟩ | ⟨tag, rfl, isTag⟩
      · have kept : withoutTags (char :: Weave.spelling rest) =
            char :: withoutTags (Weave.spelling rest) := by
          simp [withoutTags, outside, notBracket]
        exact kept.trans (congrArg (char :: ·) (inductionHypothesis restShown))
      · exact (isTag.withoutTags_append _).trans (inductionHypothesis restShown)

/-- Every opening bracket begins one of the tags. -/
theorem exists_tag_of_bracket
    {before after : Text}
    (shape : weave.spelling = before ++ '<' :: after) :
    ∃ tag rest, IsInlineTag tag ∧ '<' :: after = tag ++ rest := by
  induction weave generalizing before with
  | nil => simp at shape
  | cons strand rest inductionHypothesis =>
      obtain ⟨isShown, restShown⟩ := List.forall_mem_cons.mp areShown
      rw [Weave.spelling_cons] at shape
      rcases isShown with ⟨char, rfl, notBracket⟩ | ⟨tag, rfl, isTag⟩
      · cases before with
        | nil => exact absurd (List.cons.inj shape).1 notBracket
        | cons head tail => exact inductionHypothesis restShown (List.cons.inj shape).2
      · cases before with
        | nil => exact ⟨tag, Weave.spelling rest, isTag, shape.symm⟩
        | cons head tail =>
            obtain ⟨between, rfl, avoids⟩ := isTag.exists_between
            have behind : (between ++ ['>']) ++ Weave.spelling rest = tail ++ '<' :: after :=
              (List.cons.inj shape).2
            have apart : '<' ∉ between ++ ['>'] := by
              simpa using fun member => avoids '<' member (by simp)
            have isPrefix : between ++ ['>'] <+: tail ++ '<' :: after := ⟨_, behind⟩
            obtain ⟨others, rfl⟩ := prefix_of_prefix_append_cons apart isPrefix
            rw [List.append_assoc _ others] at behind
            exact inductionHypothesis restShown (List.append_cancel_left behind)

end Shown

/--
Without brackets in a text, every opening bracket of its expanded form begins one of the four
tags, which stands there as a whole; without the tags there is nothing but characters of the
text, in their order.
-/
theorem format_inlineTags
    {text : Text}
    (noBracket : Avoids ['<', '>'] text) :
    (∀ before after,
        format text = before ++ '<' :: after →
          ∃ tag rest, IsInlineTag tag ∧ '<' :: after = tag ++ rest) ∧
      (withoutTags (format text)).Sublist text := by
  obtain ⟨weave, shape, isCut⟩ := yields_format text
  have areShown : ∀ strand ∈ weave, IsShown strand := by
    intro strand member
    refine (typed_or_made_of_isCut isCut member).imp_left ?_
    rintro ⟨char, isTyped, same⟩
    exact ⟨char, same, fun isBracket => noBracket char isTyped (by simp [isBracket])⟩
  rw [← shape]
  refine ⟨fun _ _ => exists_tag_of_bracket areShown, ?_⟩
  rw [withoutTags_spelling areShown]
  simpa [Weave.typed_map_typed] using isCut.typed

/-- Tokens that overlap: a tag ends up in a specification, and braces in an address. -/
def overlappingTokens : Text :=
  "\x7b\x7bstyle:bold|\x7b\x7bbold:#fff\x7d\x7dx\x7b\x7b/bold\x7d\x7d\x7d\x7d" ++
    "\x7b\x7blink:https://\x7b\x7b\x7d\x7da\x7b\x7b/style\x7d\x7db\x7b\x7b/link\x7d\x7d"

/-- The tag is gone, and a span and a link are left that overlap as the tokens did. -/
theorem format_inlineTags_of_overlappingTokens :
    Avoids ['<', '>'] overlappingTokens ∧
      format overlappingTokens =
          "<span style=\"font-weight:700;\">" ++
            "<a href=\"https://\x7b\x7b\" style=\"color:#008867;text-decoration:none;" ++
              "font-weight:600;\" target=\"_blank\" rel=\"noopener noreferrer\">a</span>b</a>" ∧
        (∀ before after,
            format overlappingTokens = before ++ '<' :: after →
              ∃ tag rest, IsInlineTag tag ∧ '<' :: after = tag ++ rest) ∧
          (withoutTags (format overlappingTokens)).Sublist overlappingTokens := by
  have noBracket : Avoids ['<', '>'] overlappingTokens := by
    decide
  exact ⟨noBracket, by decide +kernel, format_inlineTags noBracket⟩

end EmailComposer.Token
