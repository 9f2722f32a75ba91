import EmailComposer.Proofs.Token.Masked

namespace EmailComposer.Token

/-!
# Weaves

A weave is a text that still tells where it comes from: strand by strand it is a typed
character, a placeholder, or text that was made while the rest was sanitized. Sanitizing
leaves strands of the masked text out and weaves in what it makes, but it tears no
placeholder and changes no order.
-/

open EmailComposer.Text
open EmailComposer.Markup

/-- One strand of a text: a character that was typed, a placeholder, or text that
sanitizing made. -/
inductive Strand where
  | typed (char : Char)
  | mark (entry : Placeholder)
  | made (text : Text)
  deriving Repr, DecidableEq

namespace Strand

/-- The text of a strand. -/
def spelling : Strand → Text
  | .typed char => [char]
  | .mark entry => entry.1
  | .made text => text

/-- The strand was there before sanitizing. -/
def isOriginal : Strand → Bool
  | .made _ => false
  | _ => true

/-- The typed character of a strand that is one. -/
def typed? : Strand → Option Char
  | .typed char => some char
  | _ => none

/-- The placeholder of a strand that is one. -/
def mark? : Strand → Option Placeholder
  | .mark entry => some entry
  | _ => none

/-- The strand is a single character, or all of its characters are of a class. -/
def IsSolid (keeps : Char → Bool) (strand : Strand) : Prop :=
  (∃ char, strand.spelling = [char]) ∨ ∀ char ∈ strand.spelling, keeps char = true

end Strand

/-- A text, strand by strand. -/
abbrev Weave := List Strand

/-- A single character that no word, entity or token is made of. -/
def IsSign (text : Text) : Prop :=
  ∃ char, text = [char] ∧ isAsciiAlphanumeric char = false ∧ char ≠ '{'

/-- Made text that takes part in no placeholder and opens no token: words at its ends
would join with what stands around it, and the letter is one of every stem. -/
structure IsMade (text : Text) : Prop where
  starts : ∃ char ∈ text.head?, isAsciiAlphanumeric char = false
  ends : ∃ char ∈ text.getLast?, isAsciiAlphanumeric char = false
  stemless : 'k' ∉ text
  braceless : '{' ∉ text

/-- No word goes on from the end of one text to the beginning of another. -/
def IsGap (before after : Text) : Prop :=
  StopsAtEnd isAsciiAlphanumeric before ∨ Stops isAsciiAlphanumeric after

theorem IsSign.isMade
    {text : Text}
    (isSign : IsSign text) :
    IsMade text := by
  obtain ⟨char, rfl, noWord, noBrace⟩ := isSign
  have noStem : char ≠ 'k' := by
    rintro rfl
    exact absurd noWord (by decide)
  exact ⟨⟨char, rfl, noWord⟩, ⟨char, rfl, noWord⟩, by simp [noStem.symm], by simp [noBrace.symm]⟩

theorem IsSign.isAsciiAlphanumeric_eq
    {char : Char}
    (isSign : IsSign [char]) :
    isAsciiAlphanumeric char = false := by
  obtain ⟨other, same, noWord, _⟩ := isSign
  rwa [List.singleton_inj.mp same]

theorem IsMade.append
    {first second : Text}
    (firstMade : IsMade first)
    (secondMade : IsMade second) :
    IsMade (first ++ second) where
  starts := by
    obtain ⟨char, isHead, noWord⟩ := firstMade.starts
    exact ⟨char, by rw [List.head?_append, isHead]; rfl, noWord⟩
  ends := by
    obtain ⟨char, isLast, noWord⟩ := secondMade.ends
    exact ⟨char, by rw [List.getLast?_append, isLast]; rfl, noWord⟩
  stemless member :=
    (List.mem_append.mp member).elim firstMade.stemless secondMade.stemless
  braceless member :=
    (List.mem_append.mp member).elim firstMade.braceless secondMade.braceless

/-- Text between two signs is made, unless it could take part in a placeholder or open a
token. -/
theorem IsMade.of_ends
    {first last : Char}
    {middle : Text}
    (starts : IsSign [first])
    (ends : IsSign [last])
    (stemless : 'k' ∉ middle)
    (braceless : '{' ∉ middle) :
    IsMade (first :: (middle ++ [last])) where
  starts := ⟨first, rfl, starts.isAsciiAlphanumeric_eq⟩
  ends := ⟨last, by simp [List.getLast?_cons], ends.isAsciiAlphanumeric_eq⟩
  stemless := by
    simpa [stemless] using And.intro starts.isMade.stemless ends.isMade.stemless
  braceless := by
    simpa [braceless] using And.intro starts.isMade.braceless ends.isMade.braceless

namespace Weave

/-- The text of a weave. -/
def spelling (weave : Weave) : Text :=
  weave.flatMap Strand.spelling

/-- The strands that were there before sanitizing. -/
def originals (weave : Weave) : Weave :=
  weave.filter Strand.isOriginal

/-- The typed characters of a weave, in order. -/
def typed (weave : Weave) : Text :=
  weave.filterMap Strand.typed?

/-- The placeholders of a weave, in order. -/
def marks (weave : Weave) : List Placeholder :=
  weave.filterMap Strand.mark?

/-- A weave that comes from a source: its typed characters and placeholders stand in the
source in this order, and what was made is admitted. -/
structure IsCut (admits : Text → Prop) (weave source : Weave) : Prop where
  originals : weave.originals.Sublist source.originals
  made : ∀ text, .made text ∈ weave → admits text

/-- The text is woven from the source. -/
def Yields (source : Weave) (admits : Text → Prop) (text : Text) : Prop :=
  ∃ weave : Weave, weave.spelling = text ∧ weave.IsCut admits source

/-- A weave whose strands a gap between words does not go through. -/
structure IsFine (weave : Weave) : Prop where
  marks : ∀ entry, .mark entry ∈ weave → IsMark entry.1
  made : ∀ text, .made text ∈ weave → IsSign text

section Spelling

@[simp] theorem spelling_nil : spelling [] = [] :=
  rfl

@[simp] theorem spelling_cons
    (strand : Strand)
    (rest : Weave) :
    spelling (strand :: rest) = strand.spelling ++ spelling rest :=
  rfl

@[simp] theorem spelling_append
    (first second : Weave) :
    spelling (first ++ second) = spelling first ++ spelling second :=
  List.flatMap_append

theorem spelling_map_typed
    (text : Text) :
    spelling (text.map .typed) = text := by
  induction text with
  | nil => rfl
  | cons first rest inductionHypothesis => simp [Strand.spelling, inductionHypothesis]

theorem typed_append
    (first second : Weave) :
    typed (first ++ second) = typed first ++ typed second :=
  List.filterMap_append

theorem typed_map_typed
    (text : Text) :
    typed (text.map .typed) = text := by
  induction text with
  | nil => rfl
  | cons first rest inductionHypothesis => exact congrArg (first :: ·) inductionHypothesis

@[simp] theorem originals_append
    (first second : Weave) :
    originals (first ++ second) = originals first ++ originals second :=
  List.filter_append first second

/-- Only typed characters and placeholders matter for what they are. -/
theorem typed_originals
    (weave : Weave) :
    weave.originals.typed = weave.typed := by
  rw [typed, originals, List.filterMap_filter]
  congr 1
  funext strand
  cases strand <;> rfl

theorem marks_originals
    (weave : Weave) :
    weave.originals.marks = weave.marks := by
  rw [marks, originals, List.filterMap_filter]
  congr 1
  funext strand
  cases strand <;> rfl

theorem mem_marks
    {weave : Weave}
    {entry : Placeholder} :
    entry ∈ weave.marks ↔ .mark entry ∈ weave := by
  simp only [marks, List.mem_filterMap]
  constructor
  · rintro ⟨strand, member, isMark⟩
    cases strand with
    | mark other => exact Option.some.inj isMark ▸ member
    | typed char => cases isMark
    | made text => cases isMark
  · exact fun member => ⟨.mark entry, member, rfl⟩

end Spelling

section Cut

variable {admits : Text → Prop} {weave source : Weave}

/-- Typed characters of a cut weave were typed in this order. -/
theorem IsCut.typed
    (isCut : weave.IsCut admits source) :
    weave.typed.Sublist source.typed := by
  rw [← typed_originals weave, ← typed_originals source]
  exact isCut.originals.filterMap Strand.typed?

theorem IsCut.marks
    (isCut : weave.IsCut admits source) :
    weave.marks.Sublist source.marks := by
  rw [← marks_originals weave, ← marks_originals source]
  exact isCut.originals.filterMap Strand.mark?

theorem IsCut.append
    {first second firstSource secondSource : Weave}
    (fromFirst : first.IsCut admits firstSource)
    (fromSecond : second.IsCut admits secondSource) :
    IsCut admits (first ++ second) (firstSource ++ secondSource) where
  originals := by
    rw [originals_append, originals_append]
    exact fromFirst.originals.append fromSecond.originals
  made text member :=
    (List.mem_append.mp member).elim (fromFirst.made text) (fromSecond.made text)

theorem IsCut.isFine
    (isCut : weave.IsCut IsSign source)
    (isFine : source.IsFine) :
    weave.IsFine where
  marks entry member :=
    isFine.marks entry (mem_marks.mp (isCut.marks.subset (mem_marks.mpr member)))
  made := isCut.made

theorem IsFine.of_append
    {first second : Weave}
    (isFine : IsFine (first ++ second)) :
    first.IsFine ∧ second.IsFine :=
  ⟨⟨fun entry member => isFine.marks entry (List.mem_append_left second member),
      fun text member => isFine.made text (List.mem_append_left second member)⟩,
    ⟨fun entry member => isFine.marks entry (List.mem_append_right first member),
      fun text member => isFine.made text (List.mem_append_right first member)⟩⟩

theorem IsFine.of_mem_flatten
    {weaves : List Weave}
    (isFine : IsFine weaves.flatten)
    {weave : Weave}
    (member : weave ∈ weaves) :
    weave.IsFine where
  marks entry isMark := isFine.marks entry (List.mem_flatten_of_mem member isMark)
  made text isMade := isFine.made text (List.mem_flatten_of_mem member isMade)

theorem IsFine.of_cons
    {strand : Strand}
    {rest : Weave}
    (isFine : IsFine (strand :: rest)) :
    IsFine [strand] ∧ IsFine rest :=
  IsFine.of_append isFine

theorem isFine_iff :
    weave.IsFine ↔ ∀ strand ∈ weave, IsFine [strand] := by
  constructor
  · intro isFine strand member
    constructor
    · intro entry isMark
      exact isFine.marks entry (List.mem_singleton.mp isMark ▸ member)
    · intro text isMade
      exact isFine.made text (List.mem_singleton.mp isMade ▸ member)
  · intro each
    exact ⟨fun entry member => (each _ member).marks entry (by simp),
      fun text member => (each _ member).made text (by simp)⟩

/-- A fine strand is a single character or a word. -/
theorem IsFine.isSolid
    {strand : Strand}
    (isFine : IsFine [strand]) :
    strand.IsSolid isAsciiAlphanumeric := by
  cases strand with
  | typed char => exact .inl ⟨char, rfl⟩
  | mark entry => exact .inr (isFine.marks entry (by simp)).isAsciiAlphanumeric_of_mem
  | made text =>
      obtain ⟨char, shape, _⟩ := isFine.made text (by simp)
      exact .inl ⟨char, shape⟩

/-- A weave of solid strands comes apart wherever no run of the class goes on. -/
theorem exists_split
    {keeps : Char → Bool}
    (solid : ∀ strand ∈ weave, strand.IsSolid keeps)
    {before after : Text}
    (shape : weave.spelling = before ++ after)
    (isGap : StopsAtEnd keeps before ∨ Stops keeps after) :
    ∃ first second : Weave,
      weave = first ++ second ∧ first.spelling = before ∧ second.spelling = after := by
  induction weave generalizing before with
  | nil =>
      obtain ⟨rfl, rfl⟩ := List.append_eq_nil_iff.mp shape.symm
      exact ⟨[], [], rfl, rfl, rfl⟩
  | cons strand rest inductionHypothesis =>
      obtain ⟨strandSolid, restSolid⟩ := List.forall_mem_cons.mp solid
      rw [spelling_cons] at shape
      rcases List.append_eq_append_iff.mp shape with
          ⟨middle, beforeShape, restShape⟩ | ⟨middle, strandShape, afterShape⟩
      · have restGap : StopsAtEnd keeps middle ∨ Stops keeps after := by
          refine isGap.imp_left fun ends char isLast => ends char ?_
          rw [beforeShape, List.getLast?_append, isLast]
          rfl
        obtain ⟨first, second, split, firstShape, secondShape⟩ :=
          inductionHypothesis restSolid restShape restGap
        exact ⟨strand :: first, second, by rw [split, List.cons_append],
          by rw [spelling_cons, firstShape, beforeShape], secondShape⟩
      · -- The place lies in this strand: at one of its ends, or between two of its characters.
        rcases before.eq_nil_or_concat with rfl | ⟨start, last, rfl⟩
        · exact ⟨[], strand :: rest, rfl, rfl, by simpa using shape⟩
        cases middle with
        | nil =>
            exact ⟨[strand], rest, rfl, by simpa using strandShape, by simpa using afterShape.symm⟩
        | cons next others =>
            exfalso
            rcases strandSolid with ⟨char, single⟩ | inClass
            · have lengths := congrArg List.length (single.symm.trans strandShape)
              simp only [List.concat_eq_append, List.length_append, List.length_cons,
                List.length_nil] at lengths
              omega
            · rcases isGap with ends | stops
              · have leaves := ends last (by simp)
                rw [inClass last (by simp [strandShape])] at leaves
                cases leaves
              · have leaves := stops next (by simp [afterShape])
                rw [inClass next (by simp [strandShape])] at leaves
                cases leaves

/-- A fine weave comes apart at every gap between words. -/
theorem IsFine.exists_split
    (isFine : weave.IsFine)
    {before after : Text}
    (shape : weave.spelling = before ++ after)
    (isGap : IsGap before after) :
    ∃ first second : Weave,
      weave = first ++ second ∧ first.spelling = before ∧ second.spelling = after :=
  Weave.exists_split (fun strand member => (isFine_iff.mp isFine strand member).isSolid) shape isGap

end Cut

section Yields

variable {admits : Text → Prop} {source : Weave}

theorem yields_nil : source.Yields admits [] :=
  ⟨[], rfl, List.nil_sublist _, fun _ member => nomatch member⟩

/-- Text may be made in the place of anything. -/
theorem yields_made
    {text : Text}
    (admitted : admits text) :
    source.Yields admits text := by
  refine ⟨[.made text], by simp [Strand.spelling], List.nil_sublist _, fun other member => ?_⟩
  rw [List.mem_singleton, Strand.made.injEq] at member
  exact member ▸ admitted

theorem yields_self
    (made : ∀ text, .made text ∈ source → admits text) :
    source.Yields admits source.spelling :=
  ⟨source, rfl, List.Sublist.refl _, made⟩

theorem Yields.append
    {first second : Weave}
    {firstText secondText : Text}
    (fromFirst : first.Yields admits firstText)
    (fromSecond : second.Yields admits secondText) :
    Yields (first ++ second) admits (firstText ++ secondText) := by
  obtain ⟨firstWeave, rfl, firstCut⟩ := fromFirst
  obtain ⟨secondWeave, rfl, secondCut⟩ := fromSecond
  exact ⟨firstWeave ++ secondWeave, spelling_append _ _, firstCut.append secondCut⟩

/-- Weaves one after another yield what each of them yields. -/
theorem yields_flatten
    (change : Text → Text)
    {weaves : List Weave}
    (eachYields : ∀ weave ∈ weaves, weave.Yields admits (change weave.spelling)) :
    Yields weaves.flatten admits (weaves.flatMap fun weave => change weave.spelling) := by
  induction weaves with
  | nil => exact yields_nil
  | cons first rest inductionHypothesis =>
      obtain ⟨fromFirst, fromRest⟩ := List.forall_mem_cons.mp eachYields
      exact fromFirst.append (inductionHypothesis fromRest)

/-- What is woven from a cut of the source is woven from the source. -/
theorem IsCut.yields
    {first : Text → Prop}
    {weave : Weave}
    {text : Text}
    (isCut : weave.IsCut first source)
    (yields : weave.Yields admits text) :
    source.Yields admits text := by
  obtain ⟨final, shape, finalCut⟩ := yields
  exact ⟨final, shape, finalCut.originals.trans isCut.originals, finalCut.made⟩

end Yields

section Shown

variable {admits : Text → Prop} (admitsSigns : ∀ text, IsSign text → admits text)
  {onChar : Char → Text}
  (keepsWords : ∀ char, isAsciiAlphanumeric char = true → onChar char = [char])
  (shows : ∀ char, onChar char = [char] ∨ admits (onChar char))

include admitsSigns keepsWords shows

/-- Words are kept, and any other character is kept or written in an admitted way. -/
theorem Strand.yields_flatMap
    {strand : Strand}
    (isFine : IsFine [strand]) :
    Yields [strand] admits (strand.spelling.flatMap onChar) := by
  have made : ∀ text, .made text ∈ [strand] → admits text :=
    fun text member => admitsSigns text (isFine.made text member)
  have kept : strand.spelling.flatMap onChar = strand.spelling →
      Yields [strand] admits (strand.spelling.flatMap onChar) := by
    intro same
    rw [same]
    simpa using yields_self made
  rcases isFine.isSolid with ⟨char, single⟩ | isWord
  · rw [single, List.flatMap_singleton] at kept ⊢
    rcases shows char with same | admitted
    · exact kept same
    · exact yields_made admitted
  · refine kept ?_
    have eachKept : ∀ char ∈ strand.spelling, onChar char = [char] :=
      fun char member => keepsWords char (isWord char member)
    rw [List.flatMap_congr eachKept, List.flatMap_singleton']

/-- A fine weave is rewritten character by character. -/
theorem yields_flatMap
    {source : Weave}
    (isFine : source.IsFine) :
    source.Yields admits (source.spelling.flatMap onChar) := by
  induction source with
  | nil => exact yields_nil
  | cons strand rest inductionHypothesis =>
      obtain ⟨strandFine, restFine⟩ := isFine.of_cons
      rw [spelling_cons, List.flatMap_append]
      exact (Strand.yields_flatMap admitsSigns keepsWords shows strandFine).append
        (inductionHypothesis restFine)

/-- The text of a piece of a scan, whose character or value is shown in its own way. -/
def printPiece (onChar : Char → Text) (onFound : Value → Text) : Piece Value → Text
  | .plain char => onChar char
  | .found value => onFound value

/-- The pattern reads from one gap between words to another, and what a value is shown as is
woven from what it was read off. -/
def WeavesFound
    (pattern : Pattern Value)
    (onFound : Value → Text)
    (admits : Text → Prop) : Prop :=
  ∀ text value rest,
    pattern.read? text = some (value, rest) →
    ∃ used,
      text = used ++ rest ∧ Stops isAsciiAlphanumeric used ∧
        StopsAtEnd isAsciiAlphanumeric used ∧
          ∀ source : Weave,
            source.IsFine →
            source.spelling = used →
            source.Yields admits (onFound value)

/-- The pattern reads no part of a run of a class, and what a value is shown as is woven from
the fitting strands that it was read off. -/
def WeavesFrom
    (keeps : Char → Bool)
    (fits : Strand → Prop)
    (pattern : Pattern Value)
    (onFound : Value → Text)
    (admits : Text → Prop) : Prop :=
  ∀ text value rest,
    pattern.read? text = some (value, rest) →
    ∃ used,
      text = used ++ rest ∧ Stops keeps used ∧ StopsAtEnd keeps used ∧
        ∀ source : Weave,
          (∀ strand ∈ source, fits strand) →
          source.spelling = used →
          source.Yields admits (onFound value)

section Scanned

variable {Value : Type} {pattern : Pattern Value} {onFound : Value → Text}

omit admitsSigns keepsWords shows

section Fitting

variable
  {keeps : Char → Bool}
  {fits : Strand → Prop}
  (weavesFrom : WeavesFrom keeps fits pattern onFound admits)

include weavesFrom

/-- Such a pattern reads something where no run of the class begins. -/
theorem WeavesFrom.exists_cons
    {text rest : Text}
    {value : Value}
    (found : pattern.read? text = some (value, rest)) :
    ∃ first others, text = first :: others ∧ keeps first = false := by
  obtain ⟨used, shape, stops, _⟩ := weavesFrom text value rest found
  cases used with
  | nil =>
      have shorter := pattern.uses found
      rw [shape] at shorter
      simp at shorter
  | cons first others => exact ⟨first, others ++ rest, shape, stops_cons.mp stops⟩

theorem WeavesFrom.scan_run_append
    {run : Text}
    (inClass : ∀ char ∈ run, keeps char = true)
    (rest : Text) :
    pattern.scan (run ++ rest) = run.map .plain ++ pattern.scan rest := by
  induction run with
  | nil => rfl
  | cons char others inductionHypothesis =>
      have unread : pattern.read? (char :: (others ++ rest)) = none := by
        rw [Option.eq_none_iff_forall_ne_some]
        rintro ⟨value, remaining⟩ found
        obtain ⟨first, more, shape, leaves⟩ := weavesFrom.exists_cons found
        rw [← (List.cons.inj shape).1, inClass char (by simp)] at leaves
        cases leaves
      have othersInClass : ∀ other ∈ others, keeps other = true :=
        fun other member => inClass other (by simp [member])
      rw [List.cons_append, Pattern.scan_of_none unread, inductionHypothesis othersInClass]
      rfl

/-- A scan of a weave is woven from it: what the pattern reads is taken out strand by strand,
and the strands between stay whole. -/
theorem WeavesFrom.yields_scan
    (solid : ∀ strand, fits strand → strand.IsSolid keeps)
    (kept : ∀ strand, fits strand → Yields [strand] admits (strand.spelling.flatMap onChar))
    {source : Weave}
    (areFit : ∀ strand ∈ source, fits strand) :
    source.Yields admits
      ((pattern.scan source.spelling).flatMap (printPiece onChar onFound)) := by
  induction isLength : source.length using Nat.strong_induction_on generalizing source with
  | _ length inductionHypothesis =>
  subst isLength
  cases source with
  | nil =>
      rw [spelling_nil, Pattern.scan_nil]
      exact yields_nil
  | cons strand rest =>
      obtain ⟨strandFits, restFits⟩ := List.forall_mem_cons.mp areFit
      have strandYields := kept strand strandFits
      have restYields := inductionHypothesis rest.length (by simp) restFits rfl
      rcases solid strand strandFits with ⟨char, single⟩ | inClass
      · rw [single, List.flatMap_singleton] at strandYields
        cases found : pattern.read? (char :: spelling rest) with
        | none =>
            rw [spelling_cons, single, List.singleton_append, Pattern.scan_of_none found,
              List.flatMap_cons]
            exact strandYields.append restYields
        | some reading =>
            obtain ⟨value, remaining⟩ := reading
            obtain ⟨used, shape, _, ends, isWoven⟩ := weavesFrom _ value remaining found
            have spelled : spelling (strand :: rest) = used ++ remaining := by
              rw [spelling_cons, single, ← shape]
              rfl
            obtain ⟨first, second, split, firstShape, secondShape⟩ :=
              exists_split (fun other member => solid other (areFit other member)) spelled
                (.inl ends)
            rw [split] at areFit
            have firstFits := fun other member => areFit other (List.mem_append_left second member)
            have secondFits := fun other member => areFit other (List.mem_append_right first member)
            have notEmpty : first ≠ [] := by
              rintro rfl
              have shorter := pattern.uses found
              rw [shape, ← firstShape] at shorter
              simp at shorter
            have shorter : second.length < (strand :: rest).length := by
              have positive := List.length_pos_iff.mpr notEmpty
              rw [split, List.length_append]
              omega
            have secondYields := inductionHypothesis second.length shorter secondFits rfl
            rw [spelling_cons, single, List.singleton_append, Pattern.scan_of_some found,
              List.flatMap_cons, split, ← secondShape]
            exact (isWoven first firstFits firstShape).append secondYields
      · rw [spelling_cons, weavesFrom.scan_run_append inClass, List.flatMap_append,
          List.flatMap_map]
        exact strandYields.append restYields

end Fitting

include admitsSigns keepsWords shows

/-- So it is with a fine weave, whose words stay whole. -/
theorem yields_scan
    (weavesFound : WeavesFound pattern onFound admits)
    {source : Weave}
    (isFine : source.IsFine) :
    source.Yields admits
      ((pattern.scan source.spelling).flatMap (printPiece onChar onFound)) := by
  have weavesFrom : WeavesFrom isAsciiAlphanumeric (fun strand => IsFine [strand]) pattern onFound
      admits := by
    intro text value rest found
    obtain ⟨used, shape, stops, ends, isWoven⟩ := weavesFound text value rest found
    exact ⟨used, shape, stops, ends, fun source each => isWoven source (isFine_iff.mpr each)⟩
  exact weavesFrom.yields_scan (fun _ => IsFine.isSolid)
    (fun _ => Strand.yields_flatMap admitsSigns keepsWords shows) (isFine_iff.mp isFine)

end Scanned

end Shown

end Weave

end EmailComposer.Token
