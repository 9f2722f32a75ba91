import EmailComposer.Proofs.Markup.Segment

namespace EmailComposer.Markup

/-!
# Elements of emails

Emails are built from few elements. Markup in which every opening bracket begins a tag
of one of them stays so when pieces are joined, or cut where no tag can be torn apart.
-/

open EmailComposer.Text

/-- The elements that blocks are built from. -/
def elementNames : List Text :=
  ["table", "tr", "td", "img", "a", "span", "strong", "b", "em", "i", "u", "br"]

/-- Behind an opening bracket stands the name of an element, perhaps behind a slash, and a
space or a closing bracket ends the name. -/
def OpensElement (text : Text) : Prop :=
  ∃ slash ∈ [[], ['/']], ∃ name ∈ elementNames, ∃ ending ∈ [' ', '>'],
    slash ++ name ++ [ending] <+: text

instance (text : Text) : Decidable (OpensElement text) :=
  inferInstanceAs (Decidable (∃ slash ∈ [[], ['/']], ∃ name ∈ elementNames,
    ∃ ending ∈ [' ', '>'], slash ++ name ++ [ending] <+: text))

/-- Every opening bracket begins a tag of an element. -/
def OnlyElements (text : Text) : Prop :=
  ∀ before after, text = before ++ '<' :: after → OpensElement after

theorem brace_not_mem_opening :
    ∀ slash ∈ [[], ['/']], ∀ name ∈ elementNames, ∀ ending ∈ [' ', '>'],
      '{' ∉ slash ++ name ++ [ending] := by
  decide

/-- What opens an element is a word without braces. -/
theorem OpensElement.exists_word
    {text : Text}
    (opens : OpensElement text) :
    ∃ word rest, text = word ++ rest ∧ '{' ∉ word ∧ ∀ other, OpensElement (word ++ other) := by
  obtain ⟨slash, isSlash, name, isName, ending, isEnding, rest, rfl⟩ := opens
  exact ⟨_, rest, rfl, brace_not_mem_opening slash isSlash name isName ending isEnding,
    fun other => ⟨slash, isSlash, name, isName, ending, isEnding, List.prefix_append _ _⟩⟩

theorem OpensElement.append
    {text : Text}
    (opens : OpensElement text)
    (rest : Text) :
    OpensElement (text ++ rest) := by
  obtain ⟨word, others, rfl, _, always⟩ := opens.exists_word
  rw [List.append_assoc]
  exact always _

theorem onlyElements_nil : OnlyElements [] := by
  intro before after same
  simp at same

theorem onlyElements_cons
    {first : Char}
    {rest : Text} :
    OnlyElements (first :: rest) ↔ (first = '<' → OpensElement rest) ∧ OnlyElements rest := by
  constructor
  · intro only
    refine ⟨?_, fun before after same => only (first :: before) after (by rw [same]; rfl)⟩
    rintro rfl
    exact only [] rest rfl
  · rintro ⟨atStart, only⟩ before after same
    cases before with
    | nil =>
        obtain ⟨isBracket, rfl⟩ := List.cons.inj same
        exact atStart isBracket
    | cons head others => exact only others after (List.cons.inj same).2

/-- Whether every opening bracket begins a tag of an element is checked bracket by
bracket. -/
instance decidableOnlyElements : (text : Text) → Decidable (OnlyElements text)
  | [] => isTrue onlyElements_nil
  | _ :: rest =>
      have := decidableOnlyElements rest
      decidable_of_iff _ onlyElements_cons.symm

/-- A text without opening brackets has none that begins anything else. -/
theorem onlyElements_of_noBracket
    {text : Text}
    (noBracket : '<' ∉ text) :
    OnlyElements text := by
  rintro before after rfl
  simp at noBracket

theorem onlyElements_append
    {first second : Text}
    (onlyFirst : OnlyElements first)
    (onlySecond : OnlyElements second) :
    OnlyElements (first ++ second) := by
  induction first with
  | nil => exact onlySecond
  | cons head rest inductionHypothesis =>
      rw [onlyElements_cons] at onlyFirst
      rw [List.cons_append, onlyElements_cons]
      exact ⟨fun isBracket => (onlyFirst.1 isBracket).append second,
        inductionHypothesis onlyFirst.2⟩

/-- Text without opening brackets may stand behind any markup. -/
theorem OnlyElements.append_plain
    {first second : Text}
    (only : OnlyElements first)
    (plain : '<' ∉ second) :
    OnlyElements (first ++ second) :=
  onlyElements_append only (onlyElements_of_noBracket plain)

theorem onlyElements_flatMap
    {Part : Type}
    {display : Part → Text}
    {parts : List Part}
    (only : ∀ part ∈ parts, OnlyElements (display part)) :
    OnlyElements (parts.flatMap display) := by
  induction parts with
  | nil => exact onlyElements_nil
  | cons part rest inductionHypothesis =>
      rw [List.flatMap_cons]
      exact onlyElements_append (only part (by simp))
        (inductionHypothesis fun other member => only other (by simp [member]))

theorem OnlyElements.of_suffix
    {text rest : Text}
    (only : OnlyElements text)
    (isSuffix : rest <:+ text) :
    OnlyElements rest := by
  obtain ⟨start, rfl⟩ := isSuffix
  rintro before after rfl
  exact only (start ++ before) after (by simp)

/-- A brace tears no tag apart. -/
theorem OnlyElements.before_brace
    {before after : Text}
    (only : OnlyElements (before ++ '{' :: after)) :
    OnlyElements before := by
  rintro start rest rfl
  obtain ⟨slash, isSlash, name, isName, ending, isEnding, isPrefix⟩ :=
    only start (rest ++ '{' :: after) (by simp)
  exact ⟨slash, isSlash, name, isName, ending, isEnding, prefix_of_prefix_append_cons
    (brace_not_mem_opening slash isSlash name isName ending isEnding) isPrefix⟩

/-- A tag of an element whose body is empty or begins with a space begins it as it
should. -/
theorem onlyElements_raw
    {element : Tag}
    (wellFormed : element.WellFormed)
    (isElement : element.spelling ∈ elementNames)
    (spaced : element.body = [] ∨ ∃ rest, element.body = ' ' :: rest) :
    OnlyElements element.raw := by
  have behind : ∃ ending ∈ [' ', '>'], [ending] <+: element.body ++ ['>'] := by
    rcases spaced with isNil | ⟨rest, isCons⟩
    · exact ⟨'>', by simp, by simp [isNil]⟩
    · exact ⟨' ', by simp, by simp [isCons]⟩
  have spellingNoBracket : '<' ∉ element.spelling := by
    intro member
    exact absurd (wellFormed.alphanumeric '<' member) (by decide)
  have bodyNoBracket : '<' ∉ element.body := by
    intro member
    exact absurd (wellFormed.noBracket '<' member) (by decide)
  have opens : ∀ slash ∈ [[], ['/']],
      OpensElement (slash ++ element.spelling ++ (element.body ++ ['>'])) := by
    intro slash isSlash
    obtain ⟨ending, isEnding, isPrefix⟩ := behind
    exact ⟨slash, isSlash, element.spelling, isElement, ending, isEnding,
      (List.prefix_append_right_inj _).mpr isPrefix⟩
  cases isClosing : element.closing with
  | true =>
      have shape : element.raw = '<' :: ('/' :: element.spelling ++ (element.body ++ ['>'])) := by
        simp [Tag.raw, isClosing]
      rw [shape, onlyElements_cons]
      refine ⟨fun _ => opens ['/'] (by simp), onlyElements_of_noBracket ?_⟩
      simp [spellingNoBracket, bodyNoBracket]
  | false =>
      have shape : element.raw = '<' :: (element.spelling ++ (element.body ++ ['>'])) := by
        simp [Tag.raw, isClosing]
      rw [shape, onlyElements_cons]
      refine ⟨fun _ => opens [] (by simp), onlyElements_of_noBracket ?_⟩
      simp [spellingNoBracket, bodyNoBracket]

/-- Markup with known tags, spaced, and no other brackets has only elements. -/
theorem onlyElements_of_tags
    {html : Text}
    (noBracket : '<' ∉ contents html)
    (known : ∀ element ∈ tags html, element.spelling ∈ elementNames ∧
      (element.body = [] ∨ ∃ rest, element.body = ' ' :: rest)) :
    OnlyElements html := by
  rw [← flatMap_raw_segments html]
  refine onlyElements_flatMap fun segment isSegment => ?_
  cases segment with
  | text raw =>
      exact onlyElements_of_noBracket fun member => noBracket (mem_contents isSegment member)
  | tag element =>
      have isTag := mem_tags.mpr isSegment
      obtain ⟨isElement, spaced⟩ := known element isTag
      exact onlyElements_raw (wellFormed_of_mem_tags isTag) isElement spaced

end EmailComposer.Markup
