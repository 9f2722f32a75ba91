import Mathlib.Algebra.BigOperators.Group.List.Basic
import Mathlib.Algebra.Order.Ring.Int
import EmailComposer.Proofs.Text.Count
import EmailComposer.Proofs.Token.InlineTag

namespace EmailComposer.Token

/-!
# Opening and closing tags of expanded text

A pass brings in tags in pairs, keeps the content of the spans that it finds, and leaves out
their specifications. The tags of the passes before are kept with the content, but those in a
specification are left out with it: so the opening tags of expanded text outnumber the closing
ones by as much as the closing ones outnumber the opening ones in the specifications.
-/

open EmailComposer.Text

/-! ## Surplus of opening tags -/

/-- By how much the opening tags of an element outnumber its closing tags. -/
def surplus (element text : Text) : Int :=
  occurrences ('<' :: element) text - occurrences ('<' :: '/' :: (element ++ ['>'])) text

/-- The elements that formatting tokens become. -/
def inlineElements : List Text :=
  ["span", "a"]

section Surplus

variable {element : Text}

@[simp] theorem surplus_nil :
    surplus element [] = 0 := by
  simp [surplus]

theorem surplus_of_not_mem
    {text : Text}
    (missing : '<' ∉ text) :
    surplus element text = 0 := by
  simp [surplus, occurrences_of_not_mem missing]

theorem surplus_eq_zero_iff
    {text : Text} :
    surplus element text = 0 ↔
      occurrences ('<' :: element) text = occurrences ('<' :: '/' :: (element ++ ['>'])) text := by
  rw [surplus]
  omega

theorem sum_surplus
    (element : Text)
    (texts : List Text) :
    (texts.map (surplus element)).sum =
      (texts.map (occurrences ('<' :: element))).sum -
        (texts.map (occurrences ('<' :: '/' :: (element ++ ['>'])))).sum := by
  induction texts with
  | nil => rfl
  | cons first rest inductionHypothesis =>
      simp only [List.map_cons, List.sum_cons, inductionHypothesis, surplus]
      omega

theorem sum_surplus_eq_zero_iff
    {texts : List Text} :
    (texts.map (surplus element)).sum = 0 ↔
      (texts.map (occurrences ('<' :: element))).sum =
        (texts.map (occurrences ('<' :: '/' :: (element ++ ['>'])))).sum := by
  rw [sum_surplus]
  omega

variable (isInline : element ∈ inlineElements)

include isInline

/-- A tag of an element holds no closing bracket before its end. -/
theorem bracket_not_mem_of_inline :
    '>' ∉ element.dropLast ∧ '>' ∉ ('/' :: (element ++ ['>'])).dropLast := by
  revert element
  decide

theorem surplus_append
    {isBody : Text → Prop}
    {first : Text}
    (closes : ClosesBrackets isBody first)
    (second : Text) :
    surplus element (first ++ second) = surplus element first + surplus element second := by
  have single := bracket_not_mem_of_inline isInline
  have opening := occurrences_append single.1 closes second
  have closing := occurrences_append single.2 closes second
  simp only [surplus, opening, closing]
  omega

theorem surplus_plain_append
    {first : Text}
    (missing : '<' ∉ first)
    (second : Text) :
    surplus element (first ++ second) = surplus element second := by
  have closes : ClosesBrackets (fun _ => True) first := closesBrackets_of_not_mem missing
  rw [surplus_append isInline closes, surplus_of_not_mem missing, Int.zero_add]

/-- A bracket adds the same to two texts that go on in the same way until it is closed. -/
theorem surplus_cons_sub
    {first : Char}
    {rest other : Text}
    (agree :
      first = '<' →
        ∃ between behind others,
          rest = between ++ '>' :: behind ∧ other = between ++ '>' :: others) :
    surplus element (first :: rest) - surplus element rest =
      surplus element (first :: other) - surplus element other := by
  have single := bracket_not_mem_of_inline isInline
  have opening := startsWith_eq_of_closed single.1 agree
  have closing := startsWith_eq_of_closed single.2 agree
  simp only [surplus, occurrences_cons, opening, closing]
  omega

end Surplus

/-! ## Pairs of tags -/

/-- What stands between the brackets of a tag of a span. -/
structure IsSpanBody (between : Text) : Prop where
  noBrace : Avoids ['{', '}'] between
  isSpan : "span" <+: between ∨ "/span" <+: between

/-- Two tags with bodies of some sort that balance each other. -/
structure IsBalanced
    (isBody : Text → Prop)
    (element opening closing : Text) : Prop where
  closesOpening : ClosesBrackets isBody opening
  closesClosing : ClosesBrackets isBody closing
  balance : surplus element opening + surplus element closing = 0

/-- A tag is counted once if it begins as counted, and nothing else in it is. -/
theorem IsInlineTag.occurrences_eq
    {tag : Text}
    (isTag : IsInlineTag tag)
    (name : Text) :
    occurrences ('<' :: name) tag = if startsWith ('<' :: name) tag then 1 else 0 := by
  obtain ⟨between, rfl, avoids⟩ := isTag.exists_between
  have plain : '<' ∉ between ++ ['>'] := by
    simpa using fun member => avoids '<' member (by simp)
  rw [occurrences_cons, occurrences_of_not_mem plain, Nat.zero_add]

theorem closesBrackets_spanEnd :
    ClosesBrackets IsSpanBody "</span>" := by
  have inTag : IsSpanBody "/span" := ⟨by decide, .inr (List.prefix_refl _)⟩
  exact closesBrackets_tag (by decide) inTag

theorem closesBrackets_linkEnd :
    ClosesBrackets (fun _ => True) "</a>" := by
  have single : '<' ∉ ("/a" : Text) := by
    decide
  exact closesBrackets_tag single trivial

section Pairs

variable {element opening closing : Text} (isInline : element ∈ inlineElements)

include isInline

/-- The closing tag of an element balances an opening one. -/
theorem balance_of_begins
    {name : Text}
    (isName : name ∈ inlineElements)
    (isTag : IsInlineTag opening)
    (begins : '<' :: name <+: opening) :
    surplus element opening + surplus element ('<' :: '/' :: (name ++ ['>'])) = 0 := by
  obtain ⟨rest, rfl⟩ := begins
  simp only [surplus, isTag.occurrences_eq]
  simp only [inlineElements, List.mem_cons, List.not_mem_nil, or_false] at isName isInline
  rcases isName with rfl | rfl
  · rcases isInline with rfl | rfl <;> rfl
  · rcases isInline with rfl | rfl <;> rfl

theorem IsSpanPair.isBalanced
    (isPair : IsSpanPair opening closing) :
    IsBalanced IsSpanBody element opening closing := by
  obtain ⟨isUncut, begins, rfl⟩ := isPair
  have isSpan : ("span" : Text) ∈ inlineElements := by
    decide
  refine ⟨?_, closesBrackets_spanEnd, balance_of_begins isInline isSpan isUncut.isTag begins⟩
  obtain ⟨between, rfl, avoids⟩ := isUncut.isTag.exists_between
  refine closesBrackets_tag (fun member => avoids '<' member (by simp)) ⟨?_, .inl ?_⟩
  · exact fun char member => isUncut.noBrace char (by simp [member])
  · exact prefix_of_prefix_append_cons (by decide) (List.cons_prefix_cons.mp begins).2

theorem IsLinkPair.isBalanced
    (isPair : IsLinkPair opening closing) :
    IsBalanced (fun _ => True) element opening closing := by
  obtain ⟨isTag, begins, rfl⟩ := isPair
  have isLink : ("a" : Text) ∈ inlineElements := by
    decide
  refine ⟨?_, closesBrackets_linkEnd, balance_of_begins isInline isLink isTag begins⟩
  obtain ⟨between, rfl, avoids⟩ := isTag.exists_between
  exact closesBrackets_tag (fun member => avoids '<' member (by simp)) trivial

end Pairs

/-! ## Passes -/

/-- The specifications of the spans that a pass finds. -/
def specs (kind : Kind) (accepts : Text → Bool) (text : Text) : List Text :=
  ((spanPattern kind accepts).findAll text).map Span.spec

section Pass

variable {kind : Kind} {accepts : Text → Bool} {display : Span → Text}

variable {span : Span} {rest text : Text}

/-- No tag is cut where a part of a span begins or ends. -/
theorem closesBrackets_of_raw_append
    (closes : ClosesBrackets IsSpanBody (span.raw kind ++ rest)) :
    ClosesBrackets IsSpanBody span.spec ∧
      ClosesBrackets IsSpanBody span.content ∧ ClosesBrackets IsSpanBody rest := by
  have noOpening : ∀ between, IsSpanBody between → '{' ∉ between :=
    fun between inTag member => inTag.noBrace '{' member (by decide)
  have noClosing : ∀ between, IsSpanBody between → '}' ∉ between :=
    fun between inTag member => inTag.noBrace '}' member (by decide)
  rw [raw_append, opener, List.append_assoc, List.append_assoc] at closes
  have fromSpec := closes.of_append
  have fromContent := fromSpec.of_append.of_append
  rw [closingMarker_eq] at fromContent
  exact ⟨fromSpec.before noClosing (by decide), fromContent.before noOpening (by decide),
    fromContent.of_append.of_append⟩

/-- A tag without braces is passed over. -/
theorem replace_tag
    {between : Text}
    (inTag : IsSpanBody between)
    (behind : Text) :
    (spanPattern kind accepts).replace display (between ++ '>' :: behind) =
      between ++ '>' :: (spanPattern kind accepts).replace display behind := by
  have unread : ∀ char ∈ between ++ ['>'], ∀ rest,
      (spanPattern kind accepts).read? (char :: rest) = none := by
    intro char member rest
    refine readSpan?_of_ne ?_ rest
    rintro rfl
    rcases List.mem_append.mp member with inBetween | isLast
    · exact inTag.noBrace '{' inBetween (by simp)
    · exact absurd isLast (by decide)
  simpa using Pattern.replace_append unread behind

theorem specs_of_some
    (found : (spanPattern kind accepts).read? text = some (span, rest)) :
    specs kind accepts text = span.spec :: specs kind accepts rest := by
  simp [specs, Pattern.findAll_of_some found]

theorem specs_of_none
    {first : Char}
    (missing : (spanPattern kind accepts).read? (first :: rest) = none) :
    specs kind accepts (first :: rest) = specs kind accepts rest := by
  simp [specs, Pattern.findAll_of_none missing]

theorem closesBrackets_of_mem_specs
    (closes : ClosesBrackets IsSpanBody text) :
    ∀ spec ∈ specs kind accepts text, ClosesBrackets IsSpanBody spec := by
  induction text using (spanPattern kind accepts).scan_induction with
  | nil => simp [specs]
  | found text span rest found inductionHypothesis =>
      rw [specs_of_some found, List.forall_mem_cons]
      obtain ⟨_, rfl⟩ := readSpan?_eq_some found
      obtain ⟨closesSpec, _, closesRest⟩ := closesBrackets_of_raw_append closes
      exact ⟨closesSpec, inductionHypothesis closesRest⟩
  | plain first rest missing inductionHypothesis =>
      rw [specs_of_none missing]
      exact inductionHypothesis closes.2

variable {element : Text} (isInline : element ∈ inlineElements)

include isInline

/-- The markers of a span hold no tags of their own. -/
theorem surplus_raw_append
    (closes : ClosesBrackets IsSpanBody (span.raw kind ++ rest)) :
    surplus element (span.raw kind ++ rest) =
      surplus element span.spec + (surplus element span.content + surplus element rest) := by
  obtain ⟨closesSpec, closesContent, _⟩ := closesBrackets_of_raw_append closes
  have plainOpening : '<' ∉ openingMarker kind := by
    cases kind <;> decide
  have plainClosing : '<' ∉ closingMarker kind := by
    cases kind <;> decide
  rw [raw_append, opener, List.append_assoc, List.append_assoc,
    surplus_plain_append isInline plainOpening, surplus_append isInline closesSpec,
    surplus_plain_append isInline (by decide), surplus_append isInline closesContent,
    surplus_plain_append isInline plainClosing]

section Display

variable {isPair : Text → Text → Prop} {isBody : Text → Prop}
  (balances : ∀ opening closing, isPair opening closing → IsBalanced isBody element opening closing)
  (shows : ShowsPair accepts display isPair)

include balances shows

/-- The two tags around the content of a span balance each other. -/
theorem surplus_display
    (accepted : accepts span.spec = true)
    (closes : ClosesBrackets isBody span.content) :
    ClosesBrackets isBody (display span) ∧
      surplus element (display span) = surplus element span.content := by
  rcases shows span accepted with bare | ⟨opening, closing, isPair, framed⟩
  · rw [bare]
    exact ⟨closes, rfl⟩
  · obtain ⟨closesOpening, closesClosing, balance⟩ := balances opening closing isPair
    rw [framed]
    refine ⟨closesOpening.append (closes.append closesClosing), ?_⟩
    rw [surplus_append isInline closesOpening, surplus_append isInline closes]
    omega

/-- Nothing but the specifications is left out by a pass. -/
theorem surplus_replace
    (allowed : ∀ between, IsSpanBody between → isBody between)
    (closes : ClosesBrackets IsSpanBody text) :
    ClosesBrackets isBody ((spanPattern kind accepts).replace display text) ∧
      surplus element ((spanPattern kind accepts).replace display text) +
          ((specs kind accepts text).map (surplus element)).sum =
        surplus element text := by
  induction text using (spanPattern kind accepts).scan_induction with
  | nil => simp [specs, ClosesBrackets]
  | found text span rest found inductionHypothesis =>
      rw [Pattern.replace_of_some found, specs_of_some found, List.map_cons, List.sum_cons]
      obtain ⟨accepted, rfl⟩ := readSpan?_eq_some found
      obtain ⟨_, closesContent, closesRest⟩ := closesBrackets_of_raw_append closes
      obtain ⟨restCloses, restSurplus⟩ := inductionHypothesis closesRest
      obtain ⟨shownCloses, shownSurplus⟩ :=
        surplus_display isInline balances shows accepted (closesContent.of_imp allowed)
      have parts := surplus_raw_append isInline closes
      refine ⟨shownCloses.append restCloses, ?_⟩
      rw [surplus_append isInline shownCloses]
      omega
  | plain first rest missing inductionHypothesis =>
      rw [Pattern.replace_of_none missing, specs_of_none missing]
      obtain ⟨restCloses, restSurplus⟩ := inductionHypothesis closes.2
      refine ⟨⟨fun isBracket => ?_, restCloses⟩, ?_⟩
      · obtain ⟨between, behind, rfl, inTag⟩ := closes.1 isBracket
        exact ⟨between, _, replace_tag inTag behind, allowed between inTag⟩
      · have agree : first = '<' →
            ∃ between behind others,
              (spanPattern kind accepts).replace display rest = between ++ '>' :: behind ∧
                rest = between ++ '>' :: others := by
          intro isBracket
          obtain ⟨between, behind, rfl, inTag⟩ := closes.1 isBracket
          exact ⟨between, _, behind, replace_tag inTag behind, rfl⟩
        have sameStep := surplus_cons_sub isInline agree
        omega

end Display

end Pass

/-! ## The three passes -/

/-- Links and styles are found with every specification that is not empty. -/
def isFilled (spec : Text) : Bool :=
  !spec.isEmpty

/-- The specifications of the spans that are found while a text is expanded, by each pass in the
text that the pass before it makes. -/
def formatSpecs (text : Text) : List Text :=
  let bold := (expandBold text).html
  let style := (expandSpans .style expandStyleSpan bold).html
  specs .bold Color.isHex text ++ (specs .style isFilled bold ++ specs .link isFilled style)

section Each

variable {element text : Text} (isInline : element ∈ inlineElements)
  (closes : ClosesBrackets IsSpanBody text)

include isInline closes

theorem surplus_bold :
    ClosesBrackets IsSpanBody (expandBold text).html ∧
      surplus element (expandBold text).html +
          ((specs .bold Color.isHex text).map (surplus element)).sum =
        surplus element text :=
  surplus_replace isInline (fun _ _ => IsSpanPair.isBalanced isInline) showsPair_bold
    (fun _ => id) closes

theorem surplus_style :
    ClosesBrackets IsSpanBody (expandSpans .style expandStyleSpan text).html ∧
      surplus element (expandSpans .style expandStyleSpan text).html +
          ((specs .style isFilled text).map (surplus element)).sum =
        surplus element text :=
  surplus_replace isInline (fun _ _ => IsSpanPair.isBalanced isInline) (showsPair_style isFilled)
    (fun _ => id) closes

theorem surplus_link :
    surplus element (expandSpans .link expandLinkSpan text).html +
        ((specs .link isFilled text).map (surplus element)).sum =
      surplus element text :=
  (surplus_replace isInline (fun _ _ => IsLinkPair.isBalanced isInline) (showsPair_link isFilled)
    (fun _ _ => trivial) closes).2

end Each

/-- Tags of spans are no tags of links. -/
theorem surplus_link_eq_zero
    {text : Text}
    (closes : ClosesBrackets IsSpanBody text) :
    surplus "a" text = 0 := by
  have noOpening : ∀ between, IsSpanBody between → ¬ "a" <+: between ++ ['>'] := by
    rintro between ⟨_, ⟨rest, rfl⟩ | ⟨rest, rfl⟩⟩ begins
    · exact absurd (List.cons_prefix_cons.mp begins).1 (by decide)
    · exact absurd (List.cons_prefix_cons.mp begins).1 (by decide)
  have noClosing : ∀ between, IsSpanBody between → ¬ "/a>" <+: between ++ ['>'] := by
    rintro between ⟨_, ⟨rest, rfl⟩ | ⟨rest, rfl⟩⟩ begins
    · exact absurd (List.cons_prefix_cons.mp begins).1 (by decide)
    · have next := (List.cons_prefix_cons.mp begins).2
      exact absurd (List.cons_prefix_cons.mp next).1 (by decide)
  have opening : occurrences "<a" text = 0 := occurrences_eq_zero (by decide) noOpening closes
  have closing : occurrences "</a>" text = 0 := occurrences_eq_zero (by decide) noClosing closes
  exact surplus_eq_zero_iff.mpr (opening.trans closing.symm)

section Format

variable {text : Text} (noBracket : Avoids ['<', '>'] text)

include noBracket

/-- Up to the last pass there are tags of spans and no others. -/
theorem closesBrackets_passes :
    ClosesBrackets IsSpanBody text ∧
      ClosesBrackets IsSpanBody (expandBold text).html ∧
        ClosesBrackets IsSpanBody
          (expandSpans .style expandStyleSpan (expandBold text).html).html := by
  have isInline : ("span" : Text) ∈ inlineElements := by
    decide
  have closes : ClosesBrackets IsSpanBody text :=
    closesBrackets_of_not_mem fun member => noBracket '<' member (by decide)
  have closesBold := (surplus_bold isInline closes).1
  exact ⟨closes, closesBold, (surplus_style isInline closesBold).1⟩

theorem closesBrackets_of_mem_formatSpecs :
    ∀ spec ∈ formatSpecs text, ClosesBrackets IsSpanBody spec := by
  obtain ⟨closes, closesBold, closesStyle⟩ := closesBrackets_passes noBracket
  simp only [formatSpecs, List.forall_mem_append]
  exact ⟨closesBrackets_of_mem_specs closes, closesBrackets_of_mem_specs closesBold,
    closesBrackets_of_mem_specs closesStyle⟩

/-- The tags that are missing from expanded text are those in the specifications. -/
theorem surplus_format
    {element : Text}
    (isInline : element ∈ inlineElements) :
    surplus element (format text) + ((formatSpecs text).map (surplus element)).sum = 0 := by
  obtain ⟨closes, closesBold, closesStyle⟩ := closesBrackets_passes noBracket
  have fromText : surplus element text = 0 :=
    surplus_of_not_mem fun member => noBracket '<' member (by decide)
  have bold := (surplus_bold isInline closes).2
  have style := (surplus_style isInline closesBold).2
  have link : surplus element (format text) + _ = _ := surplus_link isInline closesStyle
  simp only [formatSpecs, List.map_append, List.sum_append]
  omega

/--
Expanded text has as many opening as closing tags of links. It has as many opening as closing
tags of spans exactly if the specifications of its tokens, which are left out, have.
-/
theorem format_balanced_iff :
    occurrences "<a" (format text) = occurrences "</a>" (format text) ∧
      (occurrences "<span" (format text) = occurrences "</span>" (format text) ↔
        ((formatSpecs text).map (occurrences "<span")).sum =
          ((formatSpecs text).map (occurrences "</span>")).sum) := by
  have links := surplus_format noBracket (show ("a" : Text) ∈ inlineElements by decide)
  have spans := surplus_format noBracket (show ("span" : Text) ∈ inlineElements by decide)
  have noLinks : ((formatSpecs text).map (surplus "a")).sum = 0 :=
    List.sum_eq_zero (List.forall_mem_map.mpr fun spec member =>
      surplus_link_eq_zero (closesBrackets_of_mem_formatSpecs noBracket spec member))
  constructor
  · rw [noLinks, Int.add_zero] at links
    exact surplus_eq_zero_iff.mp links
  · have exactly : surplus "span" (format text) = 0 ↔
        ((formatSpecs text).map (surplus "span")).sum = 0 := by
      omega
    exact surplus_eq_zero_iff.symm.trans (exactly.trans sum_surplus_eq_zero_iff)

end Format

/-- The tokens overlap, but the specification that is left out holds a whole pair of tags. -/
theorem format_balanced_iff_of_overlappingTokens :
    Avoids ['<', '>'] overlappingTokens ∧
      formatSpecs overlappingTokens =
          ["#fff", "bold|<span style=\"color:#fff;font-weight:700;\">x</span>",
            "https://\x7b\x7b"] ∧
        occurrences "<a" (format overlappingTokens) =
            occurrences "</a>" (format overlappingTokens) ∧
          occurrences "<span" (format overlappingTokens) =
            occurrences "</span>" (format overlappingTokens) := by
  have noBracket : Avoids ['<', '>'] overlappingTokens := by
    decide
  obtain ⟨links, spans⟩ := format_balanced_iff noBracket
  exact ⟨noBracket, by decide +kernel, links, spans.mpr (by decide +kernel)⟩

/-- The closing marker of a bold token stands in the specification of a style token. -/
def swallowedMarker : Text :=
  "\x7b\x7bbold:#fff\x7d\x7da\x7b\x7bstyle:\x7b\x7b/bold\x7d\x7d\x7d\x7db\x7b\x7b/style\x7d\x7d"

/-- Not all expanded text is balanced: the closing tag goes with the specification, and the
style that the opening tag brings in does not end. -/
theorem not_forall_format_balanced :
    ¬ ∀ text,
      Avoids ['<', '>'] text →
      occurrences "<span" (format text) = occurrences "</span>" (format text) ∧
        occurrences "<a" (format text) = occurrences "</a>" (format text) := by
  intro balanced
  have noBracket : Avoids ['<', '>'] swallowedMarker := by
    decide
  have shown : format swallowedMarker = "<span style=\"color:#fff;font-weight:700;\">ab" := by
    decide +kernel
  have counts := (balanced swallowedMarker noBracket).1
  rw [shown] at counts
  exact absurd counts (by decide)

end EmailComposer.Token
