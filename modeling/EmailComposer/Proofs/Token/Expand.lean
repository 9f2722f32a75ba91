import EmailComposer.Proofs.Markup.Element
import EmailComposer.Proofs.Token.Tree

namespace EmailComposer.Token

/-!
# Expanded text keeps to the elements of emails

The passes that expand formatting tokens wrap, drop and move pieces of text, but they cut
it at braces only, so no tag is torn apart. What they add are spans and links whose colors
and addresses hold no bracket.
-/

open EmailComposer.Text
open EmailComposer.Markup

/-- Nothing is lost in front of the ending that is looked for. -/
theorem upToOnLine?_eq_some
    {ending text content rest : Text}
    (found : upToOnLine? ending text = some (content, rest)) :
    text = content ++ (ending ++ rest) := by
  induction text generalizing content rest with
  | nil =>
      obtain ⟨remaining, isAfter, same⟩ := Option.map_eq_some_iff.mp found
      obtain ⟨rfl, rfl⟩ := Prod.mk.inj same
      simpa using after?_eq_some_iff.mp isAfter
  | cons first others inductionHypothesis =>
      unfold upToOnLine? at found
      split at found
      · rename_i remaining isAfter
        obtain ⟨rfl, rfl⟩ := Prod.mk.inj (Option.some.inj found)
        simpa using after?_eq_some_iff.mp isAfter
      · split at found
        · cases found
        · obtain ⟨⟨before, remaining⟩, isFound, same⟩ := Option.map_eq_some_iff.mp found
          obtain ⟨rfl, rfl⟩ := Prod.mk.inj same
          rw [inductionHypothesis isFound]
          rfl

/-- A span is read off the beginning of the text, and its specification is accepted. -/
theorem readSpan?_eq_some
    {kind : Kind}
    {accepts : Text → Bool}
    {text rest : Text}
    {span : Span}
    (found : readSpan? kind accepts text = some (span, rest)) :
    accepts span.spec = true ∧ text = span.raw kind ++ rest := by
  unfold readSpan? at found
  split at found
  · cases found
  · rename_i inner isInner
    dsimp only at found
    split at found
    · rename_i accepted
      split at found
      · cases found
      · rename_i body isBody
        obtain ⟨⟨content, remaining⟩, isFound, same⟩ := Option.map_eq_some_iff.mp found
        obtain ⟨rfl, rfl⟩ := Prod.mk.inj same
        refine ⟨accepted, ?_⟩
        have innerShape := List.takeWhile_append_dropWhile (p := (· != '\x7d')) (l := inner)
        rw [after?_eq_some_iff.mp isBody, upToOnLine?_eq_some isFound] at innerShape
        refine (after?_eq_some_iff.mp isInner).trans ?_
        simp only [Span.raw, List.append_assoc, innerShape]
    · cases found

/-- The content of a span ends in front of a brace. -/
theorem onlyElements_content
    {kind : Kind}
    {span : Span}
    {rest : Text}
    (only : OnlyElements (span.raw kind ++ rest)) :
    OnlyElements span.content := by
  have closing : ∃ others, closingMarker kind = '{' :: others := by
    cases kind <;> exact ⟨_, rfl⟩
  obtain ⟨others, shape⟩ := closing
  have isSuffix : span.content ++ '{' :: (others ++ rest) <:+ span.raw kind ++ rest := by
    refine ⟨openingMarker kind ++ span.spec ++ "\x7d\x7d", ?_⟩
    simp [Span.raw, shape]
  exact (only.of_suffix isSuffix).before_brace

/-- Only a brace starts a span. -/
theorem readSpan?_of_ne
    {kind : Kind}
    {accepts : Text → Bool}
    {first : Char}
    (notBrace : first ≠ '{')
    (rest : Text) :
    readSpan? kind accepts (first :: rest) = none := by
  have opening : after? (openingMarker kind) (first :: rest) = none := by
    cases kind <;> simp [openingMarker, after?, Ne.symm notBrace]
  rw [readSpan?, opening]

/-- A pass keeps to the elements of emails if what it shows for a span does. -/
theorem onlyElements_replace
    {kind : Kind}
    {accepts : Text → Bool}
    {display : Span → Text}
    (shown :
      ∀ span,
        accepts span.spec = true →
        OnlyElements span.content →
        OnlyElements (display span))
    {text : Text}
    (only : OnlyElements text) :
    OnlyElements ((spanPattern kind accepts).replace display text) := by
  induction text using (spanPattern kind accepts).scan_induction with
  | nil => simpa using only
  | found text span rest isFound inductionHypothesis =>
      obtain ⟨accepted, rfl⟩ := readSpan?_eq_some isFound
      rw [Pattern.replace_of_some isFound]
      exact onlyElements_append (shown span accepted (onlyElements_content only))
        (inductionHypothesis (only.of_suffix (List.suffix_append _ rest)))
  | plain first rest missing inductionHypothesis =>
      rw [onlyElements_cons] at only
      rw [Pattern.replace_of_none missing, onlyElements_cons]
      refine ⟨fun isBracket => ?_, inductionHypothesis only.2⟩
      -- No span starts in what opens the element, so it is kept as it is.
      obtain ⟨word, others, rfl, noBrace, opens⟩ := (only.1 isBracket).exists_word
      have unread : ∀ char ∈ word, ∀ behind,
          (spanPattern kind accepts).read? (char :: behind) = none := by
        intro char member behind
        exact readSpan?_of_ne (fun isBrace => noBrace (isBrace ▸ member)) behind
      rw [Pattern.replace_append unread]
      exact opens _

section Values

theorem bracket_not_mem_of_isHex
    {color : Text}
    (isHex : Color.isHex color = true) :
    '<' ∉ color := by
  have avoids : Avoids ['<'] color := avoids_of_isHex isHex (by decide)
  exact fun member => avoids '<' member List.mem_cons_self

/-- The declarations of a style hold no bracket if its color does not. -/
theorem bracket_not_mem_declarations
    {style : StyleSpec}
    (sound : ∀ color ∈ style.color, '<' ∉ color) :
    '<' ∉ style.declarations := by
  intro member
  rcases mem_joinWith member with inSeparator | ⟨part, isPart, inPart⟩
  · exact absurd inSeparator (by decide)
  · rcases List.mem_append.mp isPart with isColor | isWeight
    · cases chosen : style.color with
      | none => simp [chosen] at isColor
      | some color =>
          rw [chosen] at isColor
          rw [List.mem_singleton.mp isColor, List.mem_append] at inPart
          rcases inPart with inProperty | inColor
          · exact absurd inProperty (by decide)
          · exact sound color chosen inColor
    · cases chosen : style.weight with
      | none => simp [chosen] at isWeight
      | some weight =>
          rw [chosen] at isWeight
          rw [List.mem_singleton.mp isWeight] at inPart
          revert inPart
          cases weight <;> decide

theorem bracket_not_mem_of_isSafeLink
    {url : Text}
    (isSafe : Url.isSafeLink url = true) :
    '<' ∉ url := by
  intro member
  simp only [Url.isSafeLink, Bool.and_eq_true, Bool.not_eq_true', List.any_eq_false] at isSafe
  exact isSafe.1.2 '<' member (by decide)

end Values

section Html

variable {content : Text} (onlyContent : OnlyElements content)

include onlyContent

theorem onlyElements_boldHtml
    {spec : Text}
    (plain : '<' ∉ spec) :
    OnlyElements (boldHtml ⟨spec, content⟩) := by
  have start : OnlyElements ("<span style=\"color:" ++ spec ++ ";font-weight:700;\">") := by
    refine OnlyElements.append_plain (OnlyElements.append_plain ?_ plain) ?_ <;> decide
  exact onlyElements_append (onlyElements_append start onlyContent) (by decide)

theorem onlyElements_styleHtml
    {style : StyleSpec}
    (plain : '<' ∉ style.declarations) :
    OnlyElements (styleHtml style content) := by
  have start : OnlyElements ("<span style=\"" ++ style.declarations ++ ";\">") := by
    refine OnlyElements.append_plain (OnlyElements.append_plain ?_ plain) ?_ <;> decide
  exact onlyElements_append (onlyElements_append start onlyContent) (by decide)

theorem onlyElements_linkHtml
    {link : LinkSpec}
    (plainUrl : '<' ∉ link.url)
    (plainColor : '<' ∉ link.color.getD defaultLinkColor) :
    OnlyElements (linkHtml link content) := by
  have plainWeight : '<' ∉ (if link.bold then "700" else "600" : Text) := by
    split <;> decide
  have start : OnlyElements ("<a href=\"" : Text) := by
    decide
  refine onlyElements_append (onlyElements_append (start.append_plain plainUrl
    |>.append_plain ?_ |>.append_plain plainColor |>.append_plain ?_
    |>.append_plain plainWeight |>.append_plain ?_) onlyContent) ?_
  all_goals decide

end Html

section Passes

variable {text : Text} (only : OnlyElements text)

include only

theorem onlyElements_expandBold :
    OnlyElements (expandBold text).html := by
  refine onlyElements_replace (fun span isHex onlyContent => ?_) only
  exact onlyElements_boldHtml onlyContent (bracket_not_mem_of_isHex isHex)

theorem onlyElements_expandStyle :
    OnlyElements (expandSpans .style expandStyleSpan text).html := by
  refine onlyElements_replace (fun span _ onlyContent => ?_) only
  dsimp only [expandStyleSpan]
  split
  · exact onlyElements_styleHtml onlyContent (bracket_not_mem_declarations
      fun color isColor => bracket_not_mem_of_isHex (StyleSpec.isHex_color _ color isColor))
  · exact onlyContent

theorem onlyElements_expandLink :
    OnlyElements (expandSpans .link expandLinkSpan text).html := by
  refine onlyElements_replace (fun span _ onlyContent => ?_) only
  dsimp only [expandLinkSpan]
  split
  · rename_i isSafe
    exact onlyElements_linkHtml onlyContent (bracket_not_mem_of_isSafeLink isSafe)
      (bracket_not_mem_of_isHex (LinkSpec.isHex_shownColor span.spec))
  · exact onlyContent

/-- Expanding formatting tokens keeps to the elements of emails. -/
theorem onlyElements_format :
    OnlyElements (format text) :=
  onlyElements_expandLink (onlyElements_expandStyle (onlyElements_expandBold only))

end Passes

end EmailComposer.Token
