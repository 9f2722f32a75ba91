import EmailComposer.Proofs.Token.Balance

namespace EmailComposer.Token

/-!
# Markers that do not nest

Where no marker begins inside another one, a pass keeps it so: it takes markers away as a whole
and brings in tags outside of the others. Then no specification holds a tag, so none is left out
with it, and the tags of spans in expanded text are balanced.
-/

open EmailComposer.Text

/-- Where the reader of a text is: outside of markers, behind one opening brace, or behind two of
them and so inside of a marker. -/
inductive Reading where
  | free
  | brace
  | inside

namespace Reading

/-- Reads one more character. Inside of a marker there is no other brace and no bracket to be
read. -/
def next? : Reading → Char → Option Reading
  | .free, char => some (if char = '{' then .brace else .free)
  | .brace, char => some (if char = '{' then .inside else .free)
  | .inside, char =>
      if char = '}' then
        some .free
      else if char = '{' ∨ char = '<' then
        none
      else
        some .inside

/-- Reads all characters of a text. -/
def read? : Reading → Text → Option Reading
  | reading, [] => some reading
  | reading, first :: rest => (reading.next? first).bind fun next => next.read? rest

variable {reading final : Reading} {first second inner rest text : Text}

theorem read?_append
    (reading : Reading)
    (first second : Text) :
    reading.read? (first ++ second) =
      (reading.read? first).bind fun middle => middle.read? second := by
  induction first generalizing reading with
  | nil => rfl
  | cons head others inductionHypothesis =>
      simp only [List.cons_append, read?, Option.bind_assoc, inductionHypothesis]

theorem read?_append_eq_some
    (isRead : reading.read? (first ++ second) = some final) :
    ∃ middle, reading.read? first = some middle ∧ middle.read? second = some final := by
  rw [read?_append] at isRead
  exact Option.bind_eq_some_iff.mp isRead

/-- Without an opening brace no marker begins. -/
theorem read?_of_not_mem
    (noBrace : '{' ∉ text) :
    free.read? text = some free := by
  induction text with
  | nil => rfl
  | cons head others inductionHypothesis =>
      rw [List.mem_cons, not_or] at noBrace
      simp [read?, next?, Ne.symm noBrace.1, inductionHypothesis noBrace.2]

/-- Two braces are read outside of markers only. -/
theorem eq_free_of_braces
    (isRead : reading.read? ('{' :: '{' :: rest) = some final) :
    reading = free ∧ inside.read? rest = some final := by
  cases reading with
  | free => exact ⟨rfl, isRead⟩
  | brace => cases isRead
  | inside => cases isRead

/-- A marker is read up to its closing braces, and there is no bracket in it. -/
theorem bracket_not_mem_of_inside
    (noBrace : '}' ∉ inner)
    (isRead : inside.read? (inner ++ '}' :: '}' :: rest) = some final) :
    '<' ∉ inner ∧ free.read? rest = some final := by
  induction inner with
  | nil => exact ⟨List.not_mem_nil, isRead⟩
  | cons head others inductionHypothesis =>
      rw [List.mem_cons, not_or] at noBrace
      obtain ⟨next, isNext, othersRead⟩ := Option.bind_eq_some_iff.mp isRead
      simp only [next?, if_neg (Ne.symm noBrace.1)] at isNext
      split at isNext
      · cases isNext
      · rename_i isOther
        cases isNext
        obtain ⟨noBracket, restRead⟩ := inductionHypothesis noBrace.2 othersRead
        rw [List.mem_cons, not_or]
        exact ⟨⟨fun same => isOther (.inr same.symm), noBracket⟩, restRead⟩

end Reading

/-- The specification of a span reaches up to the first closing brace. -/
theorem brace_not_mem_spec
    {kind : Kind}
    {accepts : Text → Bool}
    {text rest : Text}
    {span : Span}
    (found : readSpan? kind accepts text = some (span, rest)) :
    '}' ∉ span.spec := by
  unfold readSpan? at found
  split at found
  · cases found
  · rename_i inner isInner
    dsimp only at found
    split at found
    · split at found
      · cases found
      · obtain ⟨⟨content, remaining⟩, isFound, same⟩ := Option.map_eq_some_iff.mp found
        obtain ⟨rfl, rfl⟩ := Prod.mk.inj same
        exact fun member => absurd (List.mem_takeWhile_imp member) (by decide)
    · cases found

section Pass

variable {kind : Kind} {accepts : Text → Bool} {text rest : Text} {span : Span}
  {reading final : Reading}

/-- A span is read outside of markers, and so is its content. -/
theorem read?_raw_append
    (noBrace : '}' ∉ span.spec)
    (isRead : reading.read? (span.raw kind ++ rest) = some final) :
    reading = .free ∧
      '<' ∉ span.spec ∧
        Reading.free.read? span.content = some .free ∧ Reading.free.read? rest = some final := by
  have noBraceName : '}' ∉ kind.name := by
    cases kind <;> decide
  have opening : span.raw kind ++ rest =
      '{' :: '{' :: ((kind.name ++ ':' :: span.spec) ++ '}' :: '}' ::
        (span.content ++ (closingMarker kind ++ rest))) :=
    (raw_append kind span.spec span.content rest).trans (by simp [opener, openingMarker_eq])
  have closing : closingMarker kind ++ rest =
      '{' :: '{' :: (('/' :: kind.name) ++ '}' :: '}' :: rest) := by
    simp [closingMarker_eq]
  rw [opening] at isRead
  obtain ⟨isOutside, openingRead⟩ := Reading.eq_free_of_braces isRead
  obtain ⟨noBracket, contentRead⟩ :=
    Reading.bracket_not_mem_of_inside (by simp [noBraceName, noBrace]) openingRead
  obtain ⟨middle, contentRead, closingRead⟩ := Reading.read?_append_eq_some contentRead
  rw [closing] at closingRead
  obtain ⟨rfl, closingRead⟩ := Reading.eq_free_of_braces closingRead
  obtain ⟨_, restRead⟩ := Reading.bracket_not_mem_of_inside (by simp [noBraceName]) closingRead
  exact ⟨isOutside, fun member => noBracket (by simp [member]), contentRead, restRead⟩

/-- No specification holds a bracket. -/
theorem bracket_not_mem_of_mem_specs
    (isRead : reading.read? text = some final) :
    ∀ spec ∈ specs kind accepts text, '<' ∉ spec := by
  induction text using (spanPattern kind accepts).scan_induction generalizing reading with
  | nil => simp [specs]
  | found text span rest found inductionHypothesis =>
      have noBrace := brace_not_mem_spec found
      rw [specs_of_some found, List.forall_mem_cons]
      obtain ⟨_, rfl⟩ := readSpan?_eq_some found
      obtain ⟨_, noBracket, _, restRead⟩ := read?_raw_append noBrace isRead
      exact ⟨noBracket, inductionHypothesis restRead⟩
  | plain first rest missing inductionHypothesis =>
      rw [specs_of_none missing]
      obtain ⟨next, _, restRead⟩ := Option.bind_eq_some_iff.mp isRead
      exact inductionHypothesis restRead

/-- A pass that brings in spans keeps markers from nesting. -/
theorem read?_replace
    {display : Span → Text}
    (shows : ShowsPair accepts display IsSpanPair)
    (isRead : reading.read? text = some final) :
    reading.read? ((spanPattern kind accepts).replace display text) = some final := by
  induction text using (spanPattern kind accepts).scan_induction generalizing reading with
  | nil => simpa using isRead
  | found text span rest found inductionHypothesis =>
      have noBrace := brace_not_mem_spec found
      rw [Pattern.replace_of_some found, Reading.read?_append]
      obtain ⟨accepted, rfl⟩ := readSpan?_eq_some found
      obtain ⟨rfl, _, contentRead, restRead⟩ := read?_raw_append noBrace isRead
      have shownRead : Reading.free.read? (display span) = some .free := by
        rcases shows span accepted with bare | ⟨opening, closing, isPair, framed⟩
        · rw [bare, contentRead]
        · have openingRead : Reading.free.read? opening = some .free :=
            Reading.read?_of_not_mem fun member => isPair.isTag.noBrace '{' member (by decide)
          have closingRead : Reading.free.read? closing = some .free := by
            rw [isPair.isEnd]
            exact Reading.read?_of_not_mem (by decide)
          simp [framed, Reading.read?_append, openingRead, contentRead, closingRead]
      rw [shownRead]
      exact inductionHypothesis restRead
  | plain first rest missing inductionHypothesis =>
      rw [Pattern.replace_of_none missing]
      obtain ⟨next, isNext, restRead⟩ := Option.bind_eq_some_iff.mp isRead
      exact Option.bind_eq_some_iff.mpr ⟨next, isNext, inductionHypothesis restRead⟩

end Pass

/-- No marker begins in a text before the marker that begins in front of it has ended. -/
def KeepsMarkersApart (text : Text) : Prop :=
  ∃ final, Reading.free.read? text = some final

/-- Where no marker begins inside another one, the spans of expanded text are balanced. -/
theorem format_balanced
    {text : Text}
    (noBracket : Avoids ['<', '>'] text)
    (apart : KeepsMarkersApart text) :
    occurrences "<span" (format text) = occurrences "</span>" (format text) := by
  obtain ⟨final, isRead⟩ := apart
  have boldRead : Reading.free.read? (expandBold text).html = some final :=
    read?_replace showsPair_bold isRead
  have styleRead :
      Reading.free.read? (expandSpans .style expandStyleSpan (expandBold text).html).html =
        some final :=
    read?_replace (showsPair_style isFilled) boldRead
  have plain : ∀ spec ∈ formatSpecs text, '<' ∉ spec := by
    simp only [formatSpecs, List.forall_mem_append]
    exact ⟨bracket_not_mem_of_mem_specs isRead, bracket_not_mem_of_mem_specs boldRead,
      bracket_not_mem_of_mem_specs styleRead⟩
  have noTags : ((formatSpecs text).map (surplus "span")).sum = 0 :=
    List.sum_eq_zero (List.forall_mem_map.mpr fun spec member =>
      surplus_of_not_mem (plain spec member))
  have spans := surplus_format noBracket (show ("span" : Text) ∈ inlineElements by decide)
  rw [noTags, Int.add_zero] at spans
  exact surplus_eq_zero_iff.mp spans

end EmailComposer.Token
