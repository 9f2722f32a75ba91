import EmailComposer.Proofs.Text.Scan
import EmailComposer.Proofs.Token.Tree

namespace EmailComposer.Token

/-!
# Skipped text

What is looked for in formatted text begins with double braces. It is not found inside a
run without braces, and inside a marker of another sort neither. So a token is read up to
its own closing marker if its content holds no token of its kind.
-/

open EmailComposer.Text

/-- Nothing is read that starts inside `start`, when `rest` follows. -/
def Skips (read? : Text → Option Value) (start rest : Text) : Prop :=
  ∀ before first after, start = before ++ first :: after → read? (first :: (after ++ rest)) = none

/-- What is read begins with double braces. -/
def ReadsBraces (read? : Text → Option Value) : Prop :=
  ∀ text value, read? text = some value → ['{', '{'] <+: text

/-- A marker is a word in double braces that holds no other opening brace. -/
def IsMarker (word : Text) : Prop :=
  ∃ tail, word = '{' :: '{' :: tail ∧ tail ≠ [] ∧ '{' ∉ tail

section Skips

variable {read? : Text → Option Value}

theorem skips_nil
    (rest : Text) :
    Skips read? [] rest := by
  intro before first after shape
  simp at shape

theorem skips_append
    {start behind rest : Text}
    (skipsStart : Skips read? start (behind ++ rest))
    (skipsBehind : Skips read? behind rest) :
    Skips read? (start ++ behind) rest := by
  intro before first after shape
  rcases List.append_eq_append_iff.mp shape with
      ⟨middle, rfl, behindShape⟩ | ⟨middle, rfl, middleShape⟩
  · exact skipsBehind middle first after behindShape
  · cases middle with
    | nil => exact skipsBehind [] first after middleShape.symm
    | cons head others =>
        obtain ⟨rfl, rfl⟩ := List.cons.inj middleShape
        have unread := skipsStart before first others rfl
        rwa [← List.append_assoc] at unread

theorem ReadsBraces.eq_none
    (readsBraces : ReadsBraces read?)
    {text : Text}
    (notBraced : ¬ ['{', '{'] <+: text) :
    read? text = none :=
  Option.eq_none_iff_forall_ne_some.mpr fun value found => notBraced (readsBraces text value found)

variable (readsBraces : ReadsBraces read?)

include readsBraces

/-- A run without opening braces is skipped. -/
theorem skips_of_noBrace
    {run : Text}
    (noBrace : '{' ∉ run)
    (rest : Text) :
    Skips read? run rest := by
  rintro before first after rfl
  refine readsBraces.eq_none fun isPrefix => noBrace ?_
  rw [← (List.cons_prefix_cons.mp isPrefix).1]
  simp

/-- A marker is skipped if nothing is read at its first brace. -/
theorem skips_of_isMarker
    {word rest : Text}
    (isMarker : IsMarker word)
    (unread : read? (word ++ rest) = none) :
    Skips read? word rest := by
  obtain ⟨tail, rfl, notEmpty, noBrace⟩ := isMarker
  rintro before first after shape
  match before with
  | [] =>
      obtain ⟨rfl, rfl⟩ := List.cons.inj shape
      exact unread
  | [_] =>
      -- The second brace is followed by no other.
      obtain ⟨rfl, rfl⟩ := List.cons.inj (List.cons.inj shape).2
      obtain ⟨letter, others, rfl⟩ := List.exists_cons_of_ne_nil notEmpty
      refine readsBraces.eq_none fun isPrefix => noBrace ?_
      have isSecond := (List.cons_prefix_cons.mp (List.cons_prefix_cons.mp isPrefix).2).1
      exact List.mem_cons.mpr (.inl isSecond)
  | _ :: _ :: deeper =>
      obtain rfl := (List.cons.inj (List.cons.inj shape).2).2
      exact skips_of_noBrace readsBraces noBrace rest deeper first after rfl

end Skips

/-- A skipped beginning stays as it is. -/
theorem Pattern.replace_of_skips
    {pattern : Pattern Value}
    {display : Value → Text}
    {start rest : Text}
    (skips : Skips pattern.read? start rest) :
    pattern.replace display (start ++ rest) = start ++ pattern.replace display rest := by
  induction start with
  | nil => rfl
  | cons first others inductionHypothesis =>
      have unread : pattern.read? (first :: (others ++ rest)) = none := skips [] first others rfl
      have othersSkip : Skips pattern.read? others rest := by
        rintro before head after rfl
        exact skips (first :: before) head after rfl
      rw [List.cons_append, Pattern.replace_of_none unread, inductionHypothesis othersSkip]
      rfl

/-- The ending is looked for behind a skipped beginning on the same line. -/
theorem upToOnLine?_of_skips
    {ending start rest : Text}
    (oneLine : '\n' ∉ start)
    (skips : Skips (after? ending) start rest) :
    upToOnLine? ending (start ++ rest) =
      (upToOnLine? ending rest).map fun found => (start ++ found.1, found.2) := by
  induction start with
  | nil => simp
  | cons first others inductionHypothesis =>
      rw [List.mem_cons, not_or] at oneLine
      have unread : after? ending (first :: (others ++ rest)) = none := skips [] first others rfl
      have othersSkip : Skips (after? ending) others rest := by
        rintro before head after rfl
        exact skips (first :: before) head after rfl
      have noLineBreak : (first == '\n') = false := by
        simpa using Ne.symm oneLine.1
      rw [List.cons_append, upToOnLine?, unread]
      simp only [noLineBreak, Bool.false_eq_true, ↓reduceIte,
        inductionHypothesis oneLine.2 othersSkip, Option.map_map]
      rfl

/-! ## Markers -/

/-- The opening marker of a token with its specification. -/
def opener (kind : Kind) (spec : Text) : Text :=
  openingMarker kind ++ (spec ++ "\x7d\x7d")

theorem raw_append
    (kind : Kind)
    (spec content rest : Text) :
    (Span.mk spec content).raw kind ++ rest =
      opener kind spec ++ (content ++ (closingMarker kind ++ rest)) := by
  simp only [Span.raw, opener, List.append_assoc]

theorem isMarker_opener
    (kind : Kind)
    {spec : Text}
    (noBrace : HasNoBrace spec) :
    IsMarker (opener kind spec) := by
  have nameNoBrace : '{' ∉ kind.name := by
    cases kind <;> decide
  refine ⟨kind.name ++ ':' :: (spec ++ ['}', '}']), ?_, by simp, ?_⟩
  · simp [opener, openingMarker_eq]
  · simp [nameNoBrace, noBrace.1]

theorem isMarker_closingMarker
    (kind : Kind) :
    IsMarker (closingMarker kind) := by
  have nameNoBrace : '{' ∉ kind.name := by
    cases kind <;> decide
  exact ⟨'/' :: (kind.name ++ ['}', '}']), closingMarker_eq kind, by simp, by simp [nameNoBrace]⟩

theorem readsBraces_after?
    {others : Text} :
    ReadsBraces (after? ('{' :: '{' :: others)) := by
  intro text rest found
  rw [after?_eq_some_iff.mp found]
  simp

theorem readsBraces_closingMarker
    (kind : Kind) :
    ReadsBraces (after? (closingMarker kind)) := by
  cases kind <;> exact readsBraces_after?

theorem readsBraces_readSpan?
    (kind : Kind)
    (accepts : Text → Bool) :
    ReadsBraces (readSpan? kind accepts) := by
  intro text value found
  unfold readSpan? at found
  split at found
  · cases found
  · rename_i inner isInner
    rw [after?_eq_some_iff.mp isInner]
    cases kind <;> simp [openingMarker]

/-- No opening marker begins with a closing one. -/
theorem after?_closingMarker_opener
    (kind other : Kind)
    (spec rest : Text) :
    after? (closingMarker kind) (opener other spec ++ rest) = none := by
  cases kind <;> cases other <;> rfl

/-- Closing markers of different kinds are told apart. -/
theorem after?_closingMarker_of_ne
    {kind other : Kind}
    (different : other ≠ kind)
    (rest : Text) :
    after? (closingMarker kind) (closingMarker other ++ rest) = none := by
  match kind, other with
  | .bold, .bold | .style, .style | .link, .link => exact absurd rfl different
  | .bold, .style | .bold, .link | .style, .bold | .style, .link | .link, .bold | .link, .style =>
      rfl

/-- No token begins with a closing marker. -/
theorem readSpan?_closingMarker
    (kind other : Kind)
    (accepts : Text → Bool)
    (rest : Text) :
    readSpan? kind accepts (closingMarker other ++ rest) = none := by
  have unopened : after? (openingMarker kind) (closingMarker other ++ rest) = none := by
    cases kind <;> cases other <;> rfl
  rw [readSpan?, unopened]

/-- The specification of a token reaches up to the closing braces of its marker. -/
theorem takeWhile_spec
    {spec : Text}
    (noBrace : HasNoBrace spec)
    (rest : Text) :
    (spec ++ '}' :: rest).takeWhile (· != '\x7d') = spec ∧
      (spec ++ '}' :: rest).dropWhile (· != '\x7d') = '}' :: rest := by
  have inClass : ∀ char ∈ spec, (char != '\x7d') = true := by
    intro char member
    have different : char ≠ '}' := fun isBrace => noBrace.2 (isBrace ▸ member)
    simpa using different
  have stops : Stops (· != '\x7d') ('}' :: rest) := stops_cons.mpr (by decide)
  exact ⟨takeWhile_run_append inClass stops, dropWhile_run_append inClass stops⟩

/-- A token of another kind, or with a specification that is not accepted, is no span. -/
theorem readSpan?_opener_eq_none
    {kind other : Kind}
    {accepts : Text → Bool}
    {spec : Text}
    (noBrace : HasNoBrace spec)
    (refused : other = kind → accepts spec = false)
    (rest : Text) :
    readSpan? kind accepts (opener other spec ++ rest) = none := by
  by_cases same : other = kind
  · subst same
    have opened : after? (openingMarker other) (opener other spec ++ rest) =
        some (spec ++ '}' :: ('}' :: rest)) := by
      rw [after?_eq_some_iff, opener]
      simp
    rw [readSpan?, opened]
    simp [takeWhile_spec noBrace, refused rfl]
  · have unopened : after? (openingMarker kind) (opener other spec ++ rest) = none := by
      match kind, other with
      | .bold, .bold | .style, .style | .link, .link => exact absurd rfl same
      | .bold, .style | .bold, .link | .style, .bold | .style, .link | .link, .bold
      | .link, .style => rfl
    rw [readSpan?, unopened]

/-- A token is read with its own closing marker if no such marker stands in its content. -/
theorem readSpan?_raw
    {kind : Kind}
    {accepts : Text → Bool}
    {spec content rest : Text}
    (noBrace : HasNoBrace spec)
    (accepted : accepts spec = true)
    (oneLine : '\n' ∉ content)
    (skips : Skips (after? (closingMarker kind)) content (closingMarker kind ++ rest)) :
    readSpan? kind accepts ((Span.mk spec content).raw kind ++ rest) =
      some (⟨spec, content⟩, rest) := by
  have opened : after? (openingMarker kind) ((Span.mk spec content).raw kind ++ rest) =
      some (spec ++ '}' :: ('}' :: (content ++ (closingMarker kind ++ rest)))) := by
    rw [after?_eq_some_iff, raw_append, opener]
    simp
  have closed : after? "\x7d\x7d" ('}' :: '}' :: (content ++ (closingMarker kind ++ rest))) =
      some (content ++ (closingMarker kind ++ rest)) :=
    after?_eq_some_iff.mpr rfl
  have atEnd : upToOnLine? (closingMarker kind) (closingMarker kind ++ rest) =
      some ([], rest) := by
    cases kind <;> rfl
  rw [readSpan?, opened]
  simp only [takeWhile_spec noBrace, accepted, ↓reduceIte, closed,
    upToOnLine?_of_skips oneLine skips, atEnd]
  simp

namespace Formatted

/-- A tree is skipped where the markers of its tokens are. -/
theorem skips_print
    {read? : Text → Option Value}
    (readsBraces : ReadsBraces read?)
    {tree : Formatted}
    (wellFormed : tree.WellFormed)
    (openers :
      ∀ kind ∈ tree.kinds, ∀ spec rest, IsSpec spec → read? (opener kind spec ++ rest) = none)
    (closers : ∀ kind ∈ tree.kinds, ∀ rest, read? (closingMarker kind ++ rest) = none)
    (rest : Text) :
    Skips read? tree.print rest := by
  induction tree generalizing rest with
  | done => exact skips_nil rest
  | text run others inductionHypothesis =>
      exact skips_append (skips_of_noBrace readsBraces wellFormed.1.1 _)
        (inductionHypothesis wellFormed.2 openers closers rest)
  | token kind spec children others childrenHypothesis othersHypothesis =>
      obtain ⟨isSpec, _, _, childrenWellFormed, othersWellFormed⟩ := wellFormed
      have isFirst : kind ∈ (token kind spec children others).kinds := by
        simp [kinds]
      have inChildren : ∀ {other}, other ∈ children.kinds →
          other ∈ (token kind spec children others).kinds := by
        intro other member
        simp [kinds, member]
      have inOthers : ∀ {other}, other ∈ others.kinds →
          other ∈ (token kind spec children others).kinds := by
        intro other member
        simp [kinds, member]
      have shape : (token kind spec children others).print =
          opener kind spec ++ (children.print ++ (closingMarker kind ++ others.print)) :=
        raw_append kind spec children.print others.print
      rw [shape]
      refine skips_append ?_ (skips_append ?_ (skips_append ?_ ?_))
      · exact skips_of_isMarker readsBraces (isMarker_opener kind isSpec.noBrace)
          (openers kind isFirst spec _ isSpec)
      · exact childrenHypothesis childrenWellFormed
          (fun other member => openers other (inChildren member))
          (fun other member => closers other (inChildren member)) _
      · exact skips_of_isMarker readsBraces (isMarker_closingMarker kind)
          (closers kind isFirst _)
      · exact othersHypothesis othersWellFormed
          (fun other member => openers other (inOthers member))
          (fun other member => closers other (inOthers member)) rest

/-- A token is read with its own closing marker if no token in it is of its kind. -/
theorem readSpan?_token
    {kind : Kind}
    {accepts : Text → Bool}
    {spec : Text}
    {children : Formatted}
    (isSpec : IsSpec spec)
    (accepted : accepts spec = true)
    (notNested : kind ∉ children.kinds)
    (oneLine : '\n' ∉ children.print)
    (wellFormed : children.WellFormed)
    (rest : Text) :
    readSpan? kind accepts ((Span.mk spec children.print).raw kind ++ rest) =
      some (⟨spec, children.print⟩, rest) := by
  refine readSpan?_raw isSpec.noBrace accepted oneLine ?_
  refine skips_print (readsBraces_closingMarker kind) wellFormed ?_ ?_ (closingMarker kind ++ rest)
  · intro other _ otherSpec behind _
    exact after?_closingMarker_opener kind other otherSpec behind
  · intro other member
    exact after?_closingMarker_of_ne fun same => notNested (same ▸ member)

end Formatted

end EmailComposer.Token
