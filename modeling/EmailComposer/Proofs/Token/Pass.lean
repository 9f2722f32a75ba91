import EmailComposer.Proofs.Token.Skip

namespace EmailComposer.Token

/-!
# Passes over printed trees

A pass finds the tokens of its kind in the printed form of a tree, each with its own
closing marker, and skips the markers of the other kinds. It puts a frame in the place of
the two markers, so its result is the printed form of a tree again, and the next pass goes
on from there. Three passes one after another render the tree.
-/

open EmailComposer.Text

/-! ## Frames -/

/-- What stands around the content of a token that is expanded. -/
structure Frame where
  before : Text
  after : Text

namespace Frame

/-- Content in a frame. -/
def wrap (frame : Frame) (content : Text) : Text :=
  frame.before ++ content ++ frame.after

/-- No frame at all. -/
def bare : Frame :=
  ⟨[], []⟩

/-- The frame of bold text. -/
def ofBold (spec : Text) : Frame :=
  ⟨"<span style=\"color:" ++ spec ++ ";font-weight:700;\">", "</span>"⟩

/-- The frame of styled text. -/
def ofStyle (style : StyleSpec) : Frame :=
  ⟨"<span style=\"" ++ style.declarations ++ ";\">", "</span>"⟩

/-- The frame of linked text. -/
def ofLink (link : LinkSpec) : Frame :=
  let weight : Text := if link.bold then "700" else "600"
  ⟨"<a href=\"" ++ link.url ++ "\" style=\"color:" ++ link.color.getD defaultLinkColor ++
      ";text-decoration:none;font-weight:" ++ weight ++
      ";\" target=\"_blank\" rel=\"noopener noreferrer\">",
    "</a>"⟩

/-- The frame of a token, if its markers do not stay. -/
def ofToken? (kind : Kind) (spec : Text) : Option Frame :=
  match kind with
  | .bold => if Color.isHex spec then some (ofBold spec) else none
  | .style =>
      let style := StyleSpec.last spec
      some (if style.recognised then ofStyle style else bare)
  | .link =>
      let link := LinkSpec.last spec
      some (if Url.isSafeLink link.url then ofLink link else bare)

@[simp] theorem wrap_bare
    (content : Text) :
    bare.wrap content = content := by
  simp [bare, wrap]

end Frame

/-- A token is shown by its frame, or else with its markers. -/
theorem showToken_eq
    (kind : Kind)
    (spec content : Text) :
    showToken kind spec content =
      match Frame.ofToken? kind spec with
      | some frame => frame.wrap content
      | none => (Span.mk spec content).raw kind := by
  cases kind with
  | bold =>
      dsimp only [showToken, Frame.ofToken?]
      split <;> rfl
  | style =>
      dsimp only [showToken, Frame.ofToken?]
      split
      · rfl
      · simp
  | link =>
      dsimp only [showToken, Frame.ofToken?]
      split
      · rfl
      · simp

/-- The text holds neither a brace nor a line break. -/
def IsInert (text : Text) : Prop :=
  ∀ char ∈ text, char ∉ ['{', '}', '\n']

instance (text : Text) : Decidable (IsInert text) :=
  inferInstanceAs (Decidable (∀ char ∈ text, char ∉ ['{', '}', '\n']))

theorem IsInert.append
    {first second : Text}
    (inertFirst : IsInert first)
    (inertSecond : IsInert second) :
    IsInert (first ++ second) := by
  intro char member
  rcases List.mem_append.mp member with inFirst | inSecond
  · exact inertFirst char inFirst
  · exact inertSecond char inSecond

theorem IsInert.hasNoBrace
    {text : Text}
    (inert : IsInert text) :
    HasNoBrace text :=
  ⟨fun member => inert '{' member (by decide), fun member => inert '}' member (by decide)⟩

theorem IsInert.oneLine
    {text : Text}
    (inert : IsInert text) :
    '\n' ∉ text :=
  fun member => inert '\n' member (by decide)

theorem IsSpec.isInert
    {spec : Text}
    (isSpec : IsSpec spec) :
    IsInert spec := by
  intro char member isListed
  simp only [List.mem_cons, List.not_mem_nil, or_false] at isListed
  rcases isListed with rfl | rfl | rfl
  · exact isSpec.noBrace.1 member
  · exact isSpec.noBrace.2 member
  · exact isSpec.oneLine member

section Modifiers

variable {spec : Text} (isSpec : IsSpec spec)

include isSpec

theorem isInert_of_mem_modifiers
    {modifier : Text}
    (isModifier : modifier ∈ modifiers spec) :
    IsInert modifier := by
  obtain ⟨field, isField, rfl⟩ := List.mem_map.mp isModifier
  intro char member
  exact isSpec.isInert char (mem_of_mem_fields isField (mem_of_mem_strip member))

omit isSpec in
theorem isInert_declarations
    {style : StyleSpec}
    (inertColor : ∀ color ∈ style.color, IsInert color) :
    IsInert style.declarations := by
  intro char member
  rcases mem_joinWith member with inSeparator | ⟨part, isPart, inPart⟩
  · rw [List.mem_singleton.mp inSeparator]
    decide
  · refine (?_ : IsInert part) char inPart
    rcases List.mem_append.mp isPart with isColor | isWeight
    · cases chosen : style.color with
      | none => simp [chosen] at isColor
      | some color =>
          rw [chosen] at isColor
          rw [List.mem_singleton.mp isColor]
          exact IsInert.append (by decide) (inertColor color chosen)
    · cases chosen : style.weight with
      | none => simp [chosen] at isWeight
      | some weight =>
          rw [chosen] at isWeight
          rw [List.mem_singleton.mp isWeight]
          cases weight <;> decide

omit isSpec in
theorem isInert_ofStyle :
    IsInert (Frame.ofStyle (StyleSpec.last spec)).before := by
  have inertColor : ∀ color ∈ (StyleSpec.last spec).color, IsInert color := by
    rw [← StyleSpec.read_eq_last]
    exact fun color isColor => avoids_of_isHex (StyleSpec.isHex_color spec color isColor) (by decide)
  exact (IsInert.append (by decide) (isInert_declarations inertColor)).append (by decide)

theorem isInert_ofLink :
    IsInert (Frame.ofLink (LinkSpec.last spec)).before := by
  have inertUrl : IsInert (LinkSpec.last spec).url := by
    unfold LinkSpec.last
    split
    · decide
    · rename_i url others shape
      exact isInert_of_mem_modifiers isSpec (by simp [shape])
  have inertColor : IsInert ((LinkSpec.last spec).color.getD defaultLinkColor) := by
    rw [← LinkSpec.read_eq_last]
    exact avoids_of_isHex (LinkSpec.isHex_shownColor spec) (by decide)
  have inertWeight : IsInert (if (LinkSpec.last spec).bold then "700" else "600" : Text) := by
    split <;> decide
  exact (((((IsInert.append (by decide) inertUrl).append (by decide)).append inertColor).append
    (by decide)).append inertWeight).append (by decide)

/-- The frame of a token is made of its specification and of fixed texts without braces and
line breaks. -/
theorem isInert_of_ofToken?
    {kind : Kind}
    {frame : Frame}
    (found : Frame.ofToken? kind spec = some frame) :
    IsInert frame.before ∧ IsInert frame.after := by
  have spanEnd : IsInert "</span>" := by
    decide
  have linkEnd : IsInert "</a>" := by
    decide
  have bare : IsInert Frame.bare.before ∧ IsInert Frame.bare.after := by
    decide
  cases kind with
  | bold =>
      dsimp only [Frame.ofToken?] at found
      split at found
      · rw [← Option.some.inj found]
        exact ⟨(IsInert.append (by decide) isSpec.isInert).append (by decide), spanEnd⟩
      · cases found
  | style =>
      dsimp only [Frame.ofToken?] at found
      rw [← Option.some.inj found]
      split
      · exact ⟨isInert_ofStyle, spanEnd⟩
      · exact bare
  | link =>
      dsimp only [Frame.ofToken?] at found
      rw [← Option.some.inj found]
      split
      · exact ⟨isInert_ofLink isSpec, linkEnd⟩
      · exact bare

end Modifiers

/-! ## Unwrapped trees -/

namespace Formatted

/-- The frame that the pass for a kind gives to a token. -/
def frame? (kind other : Kind) (spec : Text) : Option Frame :=
  if other = kind then
    Frame.ofToken? other spec
  else
    none

/-- A tree in which the tokens of a kind have given way to their frames. -/
def unwrap (kind : Kind) : Formatted → Formatted
  | .done => .done
  | .text run rest => .text run (rest.unwrap kind)
  | .token other spec children rest =>
      match frame? kind other spec with
      | some frame =>
          .text frame.before
            ((children.unwrap kind).append (.text frame.after (rest.unwrap kind)))
      | none => .token other spec (children.unwrap kind) (rest.unwrap kind)

section Unwrap

variable {kind other : Kind} {spec : Text} {children rest tree : Formatted}

theorem unwrap_token_of_some
    {frame : Frame}
    (framed : frame? kind other spec = some frame) :
    (token other spec children rest).unwrap kind =
      .text frame.before
        ((children.unwrap kind).append (.text frame.after (rest.unwrap kind))) := by
  rw [unwrap, framed]

theorem unwrap_token_of_none
    (kept : frame? kind other spec = none) :
    (token other spec children rest).unwrap kind =
      .token other spec (children.unwrap kind) (rest.unwrap kind) := by
  rw [unwrap, kept]

@[simp] theorem unwrap_append
    (kind : Kind)
    (tree behind : Formatted) :
    (tree.append behind).unwrap kind = (tree.unwrap kind).append (behind.unwrap kind) := by
  induction tree with
  | done => rfl
  | text run rest inductionHypothesis => simp [append, unwrap, inductionHypothesis]
  | token other spec children rest _ inductionHypothesis =>
      cases framed : frame? kind other spec with
      | some frame =>
          rw [append, unwrap_token_of_some framed, unwrap_token_of_some framed,
            inductionHypothesis, append, append_assoc, append]
      | none =>
          rw [append, unwrap_token_of_none framed, unwrap_token_of_none framed,
            inductionHypothesis, append]

/-- A tree without tokens of a kind is left alone. -/
theorem unwrap_eq_self
    (missing : kind ∉ tree.kinds) :
    tree.unwrap kind = tree := by
  induction tree with
  | done => rfl
  | text run rest inductionHypothesis => rw [unwrap, inductionHypothesis missing]
  | token other spec children rest childrenHypothesis restHypothesis =>
      simp only [kinds, List.mem_cons, List.mem_append, not_or] at missing
      have kept : frame? kind other spec = none := if_neg (Ne.symm missing.1)
      rw [unwrap_token_of_none kept, childrenHypothesis missing.2.1, restHypothesis missing.2.2]

theorem kinds_unwrap_subset
    (kind : Kind)
    (tree : Formatted) :
    (tree.unwrap kind).kinds ⊆ tree.kinds := by
  induction tree with
  | done => exact fun _ member => member
  | text run rest inductionHypothesis => exact inductionHypothesis
  | token other spec children rest childrenHypothesis restHypothesis =>
      intro found member
      cases framed : frame? kind other spec with
      | some frame =>
          rw [unwrap_token_of_some framed] at member
          simp only [kinds, kinds_append, List.mem_append] at member
          simp only [kinds, List.mem_cons, List.mem_append]
          exact .inr (member.imp (childrenHypothesis ·) (restHypothesis ·))
      | none =>
          rw [unwrap_token_of_none framed] at member
          simp only [kinds, List.mem_cons, List.mem_append] at member ⊢
          exact member.imp_right (Or.imp (childrenHypothesis ·) (restHypothesis ·))

theorem isInert_of_frame?
    {frame : Frame}
    (isSpec : IsSpec spec)
    (framed : frame? kind other spec = some frame) :
    IsInert frame.before ∧ IsInert frame.after := by
  unfold frame? at framed
  split at framed
  · exact isInert_of_ofToken? isSpec framed
  · cases framed

/-- Frames bring no line break. -/
theorem oneLine_unwrap
    (wellFormed : tree.WellFormed)
    (oneLine : '\n' ∉ tree.print) :
    '\n' ∉ (tree.unwrap kind).print := by
  induction tree with
  | done => exact oneLine
  | text run rest inductionHypothesis =>
      simp only [print, List.mem_append, not_or] at oneLine
      simp [unwrap, print, oneLine.1, inductionHypothesis wellFormed.2 oneLine.2]
  | token other spec children rest childrenHypothesis restHypothesis =>
      obtain ⟨isSpec, _, childrenOneLine, childrenWellFormed, restWellFormed⟩ := wellFormed
      simp only [print, raw_append, List.mem_append, not_or] at oneLine
      obtain ⟨openerOneLine, _, closerOneLine, restOneLine⟩ := oneLine
      have childrenDone := childrenHypothesis childrenWellFormed childrenOneLine
      have restDone := restHypothesis restWellFormed restOneLine
      cases framed : frame? kind other spec with
      | some frame =>
          have inert := isInert_of_frame? isSpec framed
          rw [unwrap_token_of_some framed]
          simp [print, inert.1.oneLine, inert.2.oneLine, childrenDone, restDone]
      | none =>
          rw [unwrap_token_of_none framed, print, raw_append]
          simp [openerOneLine, closerOneLine, childrenDone, restDone]

/-- Unwrapping keeps a tree well-formed. -/
theorem wellFormed_unwrap
    (wellFormed : tree.WellFormed) :
    (tree.unwrap kind).WellFormed := by
  induction tree with
  | done => trivial
  | text run rest inductionHypothesis => exact ⟨wellFormed.1, inductionHypothesis wellFormed.2⟩
  | token other spec children rest childrenHypothesis restHypothesis =>
      obtain ⟨isSpec, notNested, oneLine, childrenWellFormed, restWellFormed⟩ := wellFormed
      have childrenDone := childrenHypothesis childrenWellFormed
      have restDone := restHypothesis restWellFormed
      cases framed : frame? kind other spec with
      | some frame =>
          have inert := isInert_of_frame? isSpec framed
          rw [unwrap_token_of_some framed]
          exact ⟨inert.1.hasNoBrace,
            wellFormed_append childrenDone ⟨inert.2.hasNoBrace, restDone⟩⟩
      | none =>
          rw [unwrap_token_of_none framed]
          exact ⟨isSpec, fun member => notNested (kinds_unwrap_subset kind children member),
            oneLine_unwrap childrenWellFormed oneLine, childrenDone, restDone⟩

end Unwrap

end Formatted

/-! ## Passes -/

/-- A pass over the tokens of a kind shows those that it accepts in their frames; the others
have none. -/
structure IsPass (kind : Kind) (accepts : Text → Bool) (display : Span → Text) : Prop where
  shown :
    ∀ {spec},
      IsSpec spec →
      accepts spec = true →
      ∃ frame, Frame.ofToken? kind spec = some frame ∧
        ∀ content, display ⟨spec, content⟩ = frame.wrap content
  kept : ∀ {spec}, IsSpec spec → accepts spec = false → Frame.ofToken? kind spec = none

theorem isPass_bold :
    IsPass .bold Color.isHex boldHtml where
  shown _ isHex := ⟨Frame.ofBold _, if_pos isHex, fun _ => rfl⟩
  kept _ notHex := by
    simp [Frame.ofToken?, notHex]

theorem isPass_style :
    IsPass .style (fun spec => !spec.isEmpty) (fun span => (expandStyleSpan span).html) where
  shown {spec} _ _ := by
    refine ⟨_, rfl, fun content => ?_⟩
    simp only [expandStyleSpan, StyleSpec.read_eq_last]
    split
    · rfl
    · simp
  kept isSpec isEmpty := by
    simp [isSpec.notEmpty] at isEmpty

theorem isPass_link :
    IsPass .link (fun spec => !spec.isEmpty) (fun span => (expandLinkSpan span).html) where
  shown {spec} _ _ := by
    refine ⟨_, rfl, fun content => ?_⟩
    simp only [expandLinkSpan, LinkSpec.read_eq_last]
    split
    · rfl
    · simp
  kept isSpec isEmpty := by
    simp [isSpec.notEmpty] at isEmpty

namespace Formatted

section Pass

variable
  {kind other : Kind}
  {accepts : Text → Bool}
  {display : Span → Text}
  {spec : Text}
  (isPass : IsPass kind accepts display)

include isPass

/-- A pass shows the tokens that have frames in these. -/
theorem shown_of_frame?
    (isSpec : IsSpec spec)
    {frame : Frame}
    (framed : frame? kind other spec = some frame) :
    other = kind ∧ accepts spec = true ∧
      ∀ content, display ⟨spec, content⟩ = frame.wrap content := by
  unfold frame? at framed
  split at framed
  case isFalse => cases framed
  rename_i same
  subst same
  cases accepted : accepts spec with
  | false =>
      rw [isPass.kept isSpec accepted] at framed
      cases framed
  | true =>
      obtain ⟨shownFrame, isFrame, shown⟩ := isPass.shown isSpec accepted
      obtain rfl : shownFrame = frame := Option.some.inj (isFrame.symm.trans framed)
      exact ⟨rfl, rfl, shown⟩

/-- A pass does not accept its tokens without frames. -/
theorem refused_of_frame?
    (isSpec : IsSpec spec)
    (kept : frame? kind other spec = none)
    (same : other = kind) :
    accepts spec = false := by
  subst same
  by_contra accepted
  obtain ⟨frame, isFrame, _⟩ := isPass.shown isSpec (Bool.of_not_eq_false accepted)
  rw [frame?, if_pos rfl, isFrame] at kept
  cases kept

/-- A pass over a printed tree, whatever follows it, unwraps the tokens of its kind. -/
theorem replace_print
    {tree : Formatted}
    (wellFormed : tree.WellFormed)
    (rest : Text) :
    (spanPattern kind accepts).replace display (tree.print ++ rest) =
      (tree.unwrap kind).print ++ (spanPattern kind accepts).replace display rest := by
  have readsBraces : ReadsBraces (spanPattern kind accepts).read? :=
    readsBraces_readSpan? kind accepts
  induction tree generalizing rest with
  | done => rfl
  | text run others inductionHypothesis =>
      rw [print, List.append_assoc,
        Pattern.replace_of_skips (skips_of_noBrace readsBraces wellFormed.1.1 _),
        inductionHypothesis wellFormed.2, unwrap, print, List.append_assoc]
  | token other spec children others childrenHypothesis othersHypothesis =>
      obtain ⟨isSpec, notNested, oneLine, childrenWellFormed, othersWellFormed⟩ := wellFormed
      rw [print, List.append_assoc]
      cases framed : frame? kind other spec with
      | some frame =>
          -- The token is a span with its own closing marker, and no span stands inside.
          obtain ⟨rfl, accepted, shown⟩ := shown_of_frame? isPass isSpec framed
          have found : (spanPattern other accepts).read?
              ((Span.mk spec children.print).raw other ++ (others.print ++ rest)) =
                some (⟨spec, children.print⟩, others.print ++ rest) :=
            readSpan?_token isSpec accepted notNested oneLine childrenWellFormed _
          rw [Pattern.replace_of_some found, shown, othersHypothesis othersWellFormed,
            unwrap_token_of_some framed, unwrap_eq_self notNested]
          simp [print, Frame.wrap]
      | none =>
          -- Its markers are skipped one by one, and its children are passed over.
          have refused := refused_of_frame? isPass isSpec framed
          have opens := skips_of_isMarker readsBraces (isMarker_opener other isSpec.noBrace)
            (readSpan?_opener_eq_none isSpec.noBrace refused
              (children.print ++ (closingMarker other ++ (others.print ++ rest))))
          have closes := skips_of_isMarker readsBraces (isMarker_closingMarker other)
            (readSpan?_closingMarker kind other accepts (others.print ++ rest))
          rw [raw_append, Pattern.replace_of_skips opens,
            childrenHypothesis childrenWellFormed, Pattern.replace_of_skips closes,
            othersHypothesis othersWellFormed, unwrap_token_of_none framed, print,
            List.append_assoc, raw_append]

end Pass

/-- Unwrapped kind by kind, a tree has its rendered form. -/
theorem print_unwrap_all
    (tree : Formatted) :
    (((tree.unwrap .bold).unwrap .style).unwrap .link).print = tree.render := by
  induction tree with
  | done => rfl
  | text run rest inductionHypothesis => simp [unwrap, print, render, inductionHypothesis]
  | token kind spec children rest childrenHypothesis restHypothesis =>
      have shown := showToken_eq kind spec children.render
      rw [render, shown]
      cases framed : Frame.ofToken? kind spec with
      | some frame =>
          cases kind <;>
            simp [unwrap, frame?, framed, print, Frame.wrap, childrenHypothesis, restHypothesis]
      | none =>
          cases kind <;>
            simp [unwrap, frame?, framed, print, childrenHypothesis, restHypothesis]

end Formatted

/--
The three passes render a printed tree: every token is shown by itself around its rendered
content, whatever the order and the mixture of tokens.
-/
theorem format_print
    {tree : Formatted}
    (wellFormed : tree.WellFormed) :
    format tree.print = tree.render := by
  have pass : ∀ {kind accepts display} {tree : Formatted}, IsPass kind accepts display →
      tree.WellFormed →
        (spanPattern kind accepts).replace display tree.print = (tree.unwrap kind).print := by
    intro kind accepts display tree isPass wellFormed
    simpa using Formatted.replace_print isPass wellFormed []
  have boldWellFormed : (tree.unwrap .bold).WellFormed := Formatted.wellFormed_unwrap wellFormed
  have styleWellFormed : ((tree.unwrap .bold).unwrap .style).WellFormed :=
    Formatted.wellFormed_unwrap boldWellFormed
  calc
    format tree.print =
        (expandSpans .link expandLinkSpan
          (expandSpans .style expandStyleSpan (tree.unwrap .bold).print).html).html := by
      rw [← pass isPass_bold wellFormed]
      rfl
    _ = (expandSpans .link expandLinkSpan ((tree.unwrap .bold).unwrap .style).print).html := by
      rw [← pass isPass_style boldWellFormed]
      rfl
    _ = (((tree.unwrap .bold).unwrap .style).unwrap .link).print :=
      pass isPass_link styleWellFormed
    _ = tree.render := tree.print_unwrap_all

/-- A link around a line of text, around bold text that is styled in turn, and behind it a
bold token without a color around a link that is refused. -/
def mixedTokens : Formatted :=
  .token .link "https://x.y|bold"
    (.text "a" (.token .bold "#fff" (.token .style "semibold|normal" (.text "b" .done) .done)
      .done))
    (.text "\n" (.token .bold "red" (.token .link "data:x" (.text "c" .done) .done) .done))

/-- So it is with tokens of all kinds inside each other. -/
theorem format_print_of_mixedTokens :
    mixedTokens.WellFormed ∧ format mixedTokens.print = mixedTokens.render :=
  ⟨by decide, format_print (by decide)⟩

end EmailComposer.Token
