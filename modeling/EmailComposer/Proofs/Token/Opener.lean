import EmailComposer.Proofs.Token.Restore
import EmailComposer.Token.Expand

namespace EmailComposer.Token

/-!
# Openers inside values

A text holds an opener where double braces, the name of a kind and a colon are followed
by double closing braces, with no closing brace before them. Neither escaping a value nor
putting personal data back into it makes or destroys an opener, as long as no placeholder
stands between double braces and the next closing brace.
-/

open EmailComposer.Text
open EmailComposer.Markup

/-- The text begins with an opening marker, a specification and closing braces. -/
def OpensAt (text : Text) : Prop :=
  ∃ kind spec, '}' ∉ spec ∧ openingMarker kind ++ (spec ++ ['}', '}']) <+: text

/-- An opening formatting token stands somewhere in the text. -/
def HoldsOpener (text : Text) : Prop :=
  ∃ kind spec, '}' ∉ spec ∧ openingMarker kind ++ (spec ++ ['}', '}']) <:+: text

/-- A formatting token, opening or closing, stands somewhere in the text. -/
def HoldsMarker (text : Text) : Prop :=
  HoldsOpener text ∨ ∃ kind, closingMarker kind <:+: text

theorem HoldsOpener.of_infix
    {part text : Text}
    (holds : HoldsOpener part)
    (isInfix : part <:+: text) :
    HoldsOpener text := by
  obtain ⟨kind, spec, apart, inPart⟩ := holds
  exact ⟨kind, spec, apart, inPart.trans isInfix⟩

/-- Any character but the brace that ends a token. -/
def isInside (char : Char) : Bool :=
  char != '}'

/-- Runs up to a closing brace are told apart by it. -/
theorem run_append_inj
    {run tail otherRun otherTail : Text}
    (same : run ++ tail = otherRun ++ otherTail)
    (inside : ∀ char ∈ run, isInside char = true)
    (stops : Stops isInside tail)
    (otherInside : ∀ char ∈ otherRun, isInside char = true)
    (otherStops : Stops isInside otherTail) :
    run = otherRun ∧ tail = otherTail := by
  have sameRun := congrArg (List.takeWhile isInside) same
  have sameTail := congrArg (List.dropWhile isInside) same
  rw [takeWhile_run_append inside stops, takeWhile_run_append otherInside otherStops] at sameRun
  rw [dropWhile_run_append inside stops, dropWhile_run_append otherInside otherStops] at sameTail
  exact ⟨sameRun, sameTail⟩

/-- Between its braces a run without closing braces begins with the name of a kind, and
closing braces follow. -/
theorem opensAt_append
    {run tail : Text}
    (inside : ∀ char ∈ run, isInside char = true)
    (stops : Stops isInside tail) :
    OpensAt ('{' :: '{' :: (run ++ tail)) ↔
      (∃ kind : Kind, kind.name ++ [':'] <+: run) ∧ ['}', '}'] <+: tail := by
  have nameInside : ∀ kind : Kind, ∀ char ∈ kind.name ++ [':'], isInside char = true := by
    intro kind
    cases kind <;> decide
  constructor
  · rintro ⟨kind, spec, noBrace, more, same⟩
    rw [openingMarker_eq] at same
    have shape : (kind.name ++ [':'] ++ spec) ++ '}' :: '}' :: more = run ++ tail := by
      simpa using same
    have specInside : ∀ char ∈ kind.name ++ [':'] ++ spec, isInside char = true := by
      intro char member
      rcases List.mem_append.mp member with inName | inSpec
      · exact nameInside kind char inName
      · have different : char ≠ '}' := fun isBrace => noBrace (isBrace ▸ inSpec)
        simpa [isInside] using different
    have braceStops : Stops isInside ('}' :: '}' :: more) := stops_cons.mpr (by decide)
    obtain ⟨sameRun, sameTail⟩ := run_append_inj shape specInside braceStops inside stops
    exact ⟨⟨kind, spec, sameRun⟩, more, sameTail⟩
  · rintro ⟨⟨kind, spec, rfl⟩, more, rfl⟩
    refine ⟨kind, spec, fun member => ?_, more, ?_⟩
    · exact absurd (inside '}' (by simp [member])) (by decide)
    · simp [openingMarker_eq]

/-- Double braces, the run behind them up to the next closing brace, and the rest. -/
theorem exists_run
    (inner : Text) :
    ∃ run tail,
      inner = run ++ tail ∧ (∀ char ∈ run, isInside char = true) ∧ Stops isInside tail :=
  ⟨inner.takeWhile isInside, inner.dropWhile isInside, List.takeWhile_append_dropWhile.symm,
    fun _ => List.mem_takeWhile_imp, stops_dropWhile⟩

/-- What opens begins with double braces and a letter. -/
theorem OpensAt.exists_eq
    {text : Text}
    (opens : OpensAt text) :
    ∃ letter rest, text = '{' :: '{' :: letter :: rest ∧ letter ≠ '{' ∧ letter ≠ '0' := by
  obtain ⟨kind, spec, _, more, same⟩ := opens
  rw [openingMarker_eq] at same
  cases kind <;> exact ⟨_, _, same.symm, by decide, by decide⟩

theorem holdsOpener_cons
    {first : Char}
    {rest : Text} :
    HoldsOpener (first :: rest) ↔ OpensAt (first :: rest) ∨ HoldsOpener rest := by
  constructor
  · rintro ⟨kind, spec, noBrace, isInfix⟩
    rcases List.infix_cons_iff.mp isInfix with isPrefix | inRest
    · exact .inl ⟨kind, spec, noBrace, isPrefix⟩
    · exact .inr ⟨kind, spec, noBrace, inRest⟩
  · rintro (⟨kind, spec, noBrace, isPrefix⟩ | ⟨kind, spec, noBrace, inRest⟩)
    · exact ⟨kind, spec, noBrace, isPrefix.isInfix⟩
    · exact ⟨kind, spec, noBrace, List.infix_cons_iff.mpr (.inr inRest)⟩

theorem not_holdsOpener_nil :
    ¬ HoldsOpener [] := by
  rintro ⟨kind, spec, _, isInfix⟩
  rw [openingMarker_eq] at isInfix
  simp at isInfix

/-- A beginning without opening braces holds no part of an opener. -/
theorem holdsOpener_append
    {start : Text}
    (noBrace : '{' ∉ start)
    (rest : Text) :
    HoldsOpener (start ++ rest) ↔ HoldsOpener rest := by
  constructor
  · rintro ⟨kind, spec, apart, isInfix⟩
    rw [openingMarker_eq] at isInfix
    refine ⟨kind, spec, apart, ?_⟩
    rw [openingMarker_eq]
    exact infix_of_infix_append noBrace isInfix
  · rintro ⟨kind, spec, apart, isInfix⟩
    exact ⟨kind, spec, apart, isInfix.trans (List.suffix_append start rest).isInfix⟩

section Escape

/-- Escaping neither makes nor destroys an opener at the beginning. -/
theorem opensAt_escape
    {text : Text} :
    OpensAt (escape text) ↔ OpensAt text := by
  have bracesSafe : ∀ char ∈ ['{', '{'], char ∉ unsafeChars := by
    decide
  by_cases isBraced : ['{', '{'] <+: text
  · obtain ⟨inner, rfl⟩ := isBraced
    obtain ⟨run, tail, rfl, inside, stops⟩ := exists_run inner
    have shape : escape (['{', '{'] ++ (run ++ tail)) =
        '{' :: '{' :: (escape run ++ escape tail) := by
      rw [escape_append, escape_append, escape_eq_self bracesSafe]
      rfl
    have escapedInside : ∀ char ∈ escape run, isInside char = true := by
      intro char member
      by_contra isBrace
      have isCloser : char = '}' := by
        simpa [isInside] using isBrace
      subst isCloser
      exact absurd (inside '}' (mem_of_mem_escape (by decide) member)) (by decide)
    have escapedStops : Stops isInside (escape tail) := by
      cases tail with
      | nil => exact stops_nil
      | cons first rest =>
          have isCloser : first = '}' := by
            simpa [isInside] using stops_cons.mp stops
          rw [isCloser, escape_cons_of_safe (by decide)]
          exact stops_cons.mpr (by decide)
    have namesSafe : ∀ kind : Kind, ∀ char ∈ kind.name ++ [':'], char ∉ unsafeChars := by
      intro kind
      cases kind <;> decide
    -- On both sides the run up to the next closing brace decides.
    rw [shape, opensAt_append escapedInside escapedStops]
    show _ ↔ OpensAt ('{' :: '{' :: (run ++ tail))
    rw [opensAt_append inside stops, prefix_escape_iff (by decide)]
    simp only [prefix_escape_iff (namesSafe _)]
  · constructor
    · intro opens
      obtain ⟨letter, rest, shape, _⟩ := opens.exists_eq
      have isPrefix : ['{', '{'] <+: escape text := ⟨letter :: rest, shape.symm⟩
      exact absurd ((prefix_escape_iff bracesSafe).mp isPrefix) isBraced
    · intro opens
      obtain ⟨letter, rest, shape, _⟩ := opens.exists_eq
      exact absurd ⟨letter :: rest, shape.symm⟩ isBraced

/-- Escaping neither makes nor destroys an opener. -/
theorem holdsOpener_escape
    {text : Text} :
    HoldsOpener (escape text) ↔ HoldsOpener text := by
  induction text with
  | nil => exact Iff.rfl
  | cons first rest inductionHypothesis =>
      by_cases isUnsafe : first ∈ unsafeChars
      · have entitiesNoBrace : ∀ unsafeChar ∈ unsafeChars,
            '{' ∉ escapeChar contentTable unsafeChar := by
          decide
        have noBrace : '{' ∉ [first] := by
          rintro member
          rw [← List.mem_singleton.mp member] at isUnsafe
          exact absurd isUnsafe (by decide)
        have skipped : HoldsOpener ([first] ++ rest) ↔ HoldsOpener rest :=
          holdsOpener_append noBrace rest
        rw [escape_cons, holdsOpener_append (entitiesNoBrace first isUnsafe),
          inductionHypothesis]
        exact skipped.symm
      · rw [holdsOpener_cons, ← opensAt_escape, ← inductionHypothesis,
          escape_cons_of_safe isUnsafe, holdsOpener_cons]

end Escape

/-- No placeholder stands between double braces and the next closing brace. -/
def Settled (stem text : Text) : Prop :=
  ∀ before run after,
    text = before ++ '{' :: '{' :: (run ++ after) →
    (∀ char ∈ run, isInside char = true) →
    ¬ stem <:+: run

theorem Settled.of_infix
    {stem part text : Text}
    (settled : Settled stem text)
    (isInfix : part <:+: text) :
    Settled stem part := by
  rintro before run after rfl inside
  obtain ⟨start, ending, shape⟩ := isInfix
  exact settled (start ++ before) run (after ++ ending) (by simp [← shape]) inside

theorem settled_cons
    {stem : Text}
    {first : Char}
    {rest : Text}
    (atStart :
      ∀ run after,
        first :: rest = '{' :: '{' :: (run ++ after) →
        (∀ char ∈ run, isInside char = true) →
        ¬ stem <:+: run)
    (settled : Settled stem rest) :
    Settled stem (first :: rest) := by
  intro before run after shape inside
  cases before with
  | nil => exact atStart run after shape inside
  | cons head others =>
      obtain ⟨_, restShape⟩ := List.cons.inj shape
      exact settled others run after restShape inside

theorem settled_append
    {stem start rest : Text}
    (noBrace : '{' ∉ start)
    (settled : Settled stem rest) :
    Settled stem (start ++ rest) := by
  induction start with
  | nil => exact settled
  | cons first others inductionHypothesis =>
      rw [List.mem_cons, not_or] at noBrace
      refine settled_cons (fun run after shape _ => ?_) (inductionHypothesis noBrace.2)
      exact absurd (List.cons.inj shape).1.symm noBrace.1

/-- A run without closing braces does not reach over one. -/
theorem prefix_of_inside
    {run after other tail : Text}
    (same : run ++ after = other ++ tail)
    (inside : ∀ char ∈ run, isInside char = true)
    (stops : Stops isInside tail) :
    run <+: other := by
  rcases List.append_eq_append_iff.mp same with ⟨middle, shape, _⟩ | ⟨middle, shape, rest⟩
  · exact ⟨middle, shape.symm⟩
  · cases middle with
    | nil => exact ⟨[], by simpa using shape⟩
    | cons head others =>
        rw [rest] at stops
        have isBrace := stops_cons.mp stops
        rw [inside head (by simp [shape])] at isBrace
        cases isBrace

section Personal

variable {stemOthers body : Text} (isPersonal : IsPersonal body)

include isPersonal

/-- In braces personal data has no third opening brace. -/
theorem head_ne_of_isPersonal
    {rest after : Text} :
    body ++ '}' :: rest ≠ '{' :: after := by
  intro same
  cases body with
  | nil => simp at same
  | cons head others =>
      have isHead : head = '{' := by
        simpa using (List.cons.inj same).1
      exact isPersonal.not_mem_markupChars (by simp [isHead]) (by decide : '{' ∈ markupChars)

theorem brace_not_mem_of_isPersonal :
    '{' ∉ body ++ ['}', '}'] := by
  intro member
  rcases List.mem_append.mp member with inBody | isCloser
  · exact isPersonal.not_mem_markupChars inBody (by decide)
  · exact absurd isCloser (by decide)

theorem inside_of_isPersonal :
    ∀ char ∈ body, isInside char = true := by
  intro char member
  have different : char ≠ '}' := by
    rintro rfl
    exact isPersonal.not_mem_markupChars member (by decide)
  simpa [isInside] using different

/-- Personal data in braces holds no opener. -/
theorem holdsOpener_braced
    (rest : Text) :
    HoldsOpener (braced body ++ rest) ↔ HoldsOpener rest := by
  have notFirst : ¬ OpensAt ('{' :: '{' :: (body ++ '}' :: '}' :: rest)) := by
    rw [opensAt_append (inside_of_isPersonal isPersonal) (stops_cons.mpr (by decide))]
    rintro ⟨⟨kind, isPrefix⟩, _⟩
    have isColon : ':' ∈ markupChars := by
      decide
    exact isPersonal.not_mem_markupChars (isPrefix.subset (by simp)) isColon
  have notSecond : ¬ OpensAt ('{' :: (body ++ '}' :: '}' :: rest)) := by
    intro opens
    obtain ⟨letter, after, same, _⟩ := opens.exists_eq
    exact head_ne_of_isPersonal isPersonal (List.cons.inj same).2
  have behind : HoldsOpener ((body ++ ['}', '}']) ++ rest) ↔ HoldsOpener rest :=
    holdsOpener_append (brace_not_mem_of_isPersonal isPersonal) rest
  rw [List.append_assoc] at behind
  rw [braced_append, holdsOpener_cons, holdsOpener_cons]
  simpa [notFirst, notSecond] using behind

/-- Personal data in braces keeps a text settled. -/
theorem settled_braced
    {rest : Text}
    (settled : Settled ('0' :: stemOthers) rest) :
    Settled ('0' :: stemOthers) (braced body ++ rest) := by
  have behind : Settled ('0' :: stemOthers) ((body ++ ['}', '}']) ++ rest) :=
    settled_append (brace_not_mem_of_isPersonal isPersonal) settled
  rw [List.append_assoc] at behind
  rw [braced_append]
  refine settled_cons (fun run after same inside isInfix => ?_)
    (settled_cons (fun run after same _ => ?_) behind)
  · have runShape : run ++ after = body ++ '}' :: '}' :: rest :=
      (List.cons.inj (List.cons.inj same).2).2.symm
    have isPrefix := prefix_of_inside runShape inside (stops_cons.mpr (by decide))
    exact isPersonal.not_mem_markupChars (isPrefix.subset (isInfix.subset (by simp)))
      (by decide : '0' ∈ markupChars)
  · exact absurd (List.cons.inj same).2 (head_ne_of_isPersonal isPersonal)

end Personal

section Replacement

variable {stemOthers targetOthers body : Text} (isPersonal : IsPersonal body)
  (hasStem : '0' :: stemOthers <+: '0' :: targetOthers)
  (isMark : IsMark ('0' :: targetOthers))

include hasStem isMark

/-- The run behind double braces is kept, and replacing goes on behind it. -/
theorem replaceAll_run
    {run tail : Text}
    (stops : Stops isInside tail)
    (noStem : ¬ '0' :: stemOthers <:+: run)
    (replacement : Text) :
    replaceAll ('0' :: targetOthers) replacement ('{' :: '{' :: (run ++ tail)) =
      '{' :: '{' :: (run ++ replaceAll ('0' :: targetOthers) replacement tail) := by
  have braceApart : ∀ char ∈ tail.head?, char ∉ '0' :: targetOthers := by
    intro char isHead member
    have isCloser : char = '}' := by
      simpa [isInside] using stops char isHead
    rw [isCloser] at member
    exact isMark.not_mem (by decide) member
  have missing : ¬ '0' :: targetOthers <:+: run :=
    fun isInfix => noStem (hasStem.isInfix.trans isInfix)
  have bracesKept : replaceAll ('0' :: targetOthers) replacement (['{', '{'] ++ (run ++ tail)) =
      ['{', '{'] ++ replaceAll ('0' :: targetOthers) replacement (run ++ tail) :=
    replaceAll_append (by decide) _
  rw [replaceAll_append_of_head (by simp) braceApart, replaceAll_eq_self (by simp) missing]
    at bracesKept
  exact bracesKept

omit hasStem isMark in
/-- Two braces and no third come from one brace of the text, not from personal data. -/
theorem braces_of_replaceAll
    {rest after : Text}
    {letter : Char}
    (notBrace : letter ≠ '{')
    (same : replaceAll ('0' :: targetOthers) (braced body) rest = '{' :: letter :: after) :
    ∃ inner, rest = '{' :: inner := by
  have notEmpty : '0' :: targetOthers ≠ [] := by simp
  cases rest using replaceAll_induction notEmpty with
  | nil => simp at same
  | found remaining _ =>
      rw [replaceAll_append_target notEmpty, braced_append] at same
      exact absurd (List.cons.inj (List.cons.inj same).2).1.symm notBrace
  | plain first remaining missing _ =>
      rw [replaceAll_cons notEmpty missing] at same
      exact ⟨remaining, by rw [(List.cons.inj same).1]⟩

/-- Putting personal data back neither makes nor destroys an opener at the beginning. -/
theorem opensAt_replaceAll
    {first : Char}
    {rest : Text}
    (settled : Settled ('0' :: stemOthers) (first :: rest))
    (missing : ¬ '0' :: targetOthers <+: first :: rest) :
    OpensAt (first :: replaceAll ('0' :: targetOthers) (braced body) rest) ↔
      OpensAt (first :: rest) := by
  by_cases isBraced : ['{', '{'] <+: first :: rest
  · obtain ⟨inner, shape⟩ := isBraced
    obtain ⟨run, tail, rfl, inside, stops⟩ := exists_run inner
    have noStem := settled [] run tail shape.symm inside
    have kept := replaceAll_run hasStem isMark stops noStem (braced body)
    rw [← replaceAll_cons (by simp) missing, ← shape]
    show OpensAt (replaceAll _ _ ('{' :: '{' :: (run ++ tail))) ↔
      OpensAt ('{' :: '{' :: (run ++ tail))
    rw [kept, opensAt_append inside (stops_replaceAll (by decide) stops),
      opensAt_append inside stops]
    refine and_congr_right fun _ => ⟨fun isPrefix => ?_, ?_⟩
    · exact prefix_of_prefix_replaceAll (by simp) (by decide : '{' ∉ ['}', '}']) isPrefix
    · rintro ⟨after, rfl⟩
      rw [replaceAll_append (by decide : '0' ∉ ['}', '}'])]
      exact List.prefix_append _ _
  · constructor
    · intro opens
      obtain ⟨letter, after, same, notBrace, _⟩ := opens.exists_eq
      obtain ⟨isFirst, restShape⟩ := List.cons.inj same
      obtain ⟨inner, rfl⟩ := braces_of_replaceAll notBrace restShape
      exact absurd ⟨inner, by rw [isFirst]; rfl⟩ isBraced
    · intro opens
      obtain ⟨letter, after, same, _⟩ := opens.exists_eq
      exact absurd ⟨letter :: after, same.symm⟩ isBraced

include isPersonal

theorem holdsOpener_replaceAll
    {text : Text}
    (settled : Settled ('0' :: stemOthers) text) :
    HoldsOpener (replaceAll ('0' :: targetOthers) (braced body) text) ↔ HoldsOpener text := by
  have notEmpty : '0' :: targetOthers ≠ [] := by simp
  induction text using replaceAll_induction notEmpty with
  | nil => simp
  | found rest inductionHypothesis =>
      rw [replaceAll_append_target notEmpty, holdsOpener_braced isPersonal,
        holdsOpener_append (isMark.not_mem (by decide))]
      exact inductionHypothesis (settled.of_infix (List.suffix_append _ rest).isInfix)
  | plain first rest missing inductionHypothesis =>
      have behind : HoldsOpener _ ↔ HoldsOpener rest :=
        inductionHypothesis (settled.of_infix (List.suffix_cons first rest).isInfix)
      rw [replaceAll_cons notEmpty missing, holdsOpener_cons, holdsOpener_cons, behind,
        opensAt_replaceAll hasStem isMark settled missing]

theorem settled_replaceAll
    {text : Text}
    (settled : Settled ('0' :: stemOthers) text) :
    Settled ('0' :: stemOthers) (replaceAll ('0' :: targetOthers) (braced body) text) := by
  have notEmpty : '0' :: targetOthers ≠ [] := by simp
  induction text using replaceAll_induction notEmpty with
  | nil => simpa using settled
  | found rest inductionHypothesis =>
      rw [replaceAll_append_target notEmpty]
      exact settled_braced isPersonal
        (inductionHypothesis (settled.of_infix (List.suffix_append _ rest).isInfix))
  | plain first rest missing inductionHypothesis =>
      have behind := inductionHypothesis (settled.of_infix (List.suffix_cons first rest).isInfix)
      rw [replaceAll_cons notEmpty missing]
      refine settled_cons (fun run after same inside isInfix => ?_) behind
      -- Old braces keep the run behind them, and behind new ones stands personal data.
      by_cases isBraced : ['{', '{'] <+: first :: rest
      · obtain ⟨inner, shape⟩ := isBraced
        obtain ⟨oldRun, tail, rfl, oldInside, stops⟩ := exists_run inner
        have noStem := settled [] oldRun tail shape.symm oldInside
        have kept := replaceAll_run hasStem isMark stops noStem (braced body)
        have sameText :
            '{' :: '{' :: (oldRun ++ replaceAll ('0' :: targetOthers) (braced body) tail) =
              '{' :: '{' :: (run ++ after) := by
          rw [← kept, ← same, ← replaceAll_cons notEmpty missing, ← shape]
          rfl
        have sameRun := (List.cons.inj (List.cons.inj sameText).2).2.symm
        have isPrefix := prefix_of_inside sameRun inside (stops_replaceAll (by decide) stops)
        exact noStem (isInfix.trans isPrefix.isInfix)
      · obtain ⟨isFirst, restShape⟩ := List.cons.inj same
        cases rest using replaceAll_induction notEmpty with
        | nil => simp at restShape
        | found remaining _ =>
            rw [replaceAll_append_target notEmpty, braced_append] at restShape
            have runShape : run ++ after = ('{' :: body) ++ '}' :: '}' ::
                replaceAll ('0' :: targetOthers) (braced body) remaining :=
              (List.cons.inj restShape).2.symm
            have isPrefix := prefix_of_inside runShape inside (stops_cons.mpr (by decide))
            rcases List.mem_cons.mp (isPrefix.subset (isInfix.subset (List.mem_cons_self))) with
                isZero | inBody
            · exact absurd isZero (by decide)
            · exact isPersonal.not_mem_markupChars inBody (by decide)
        | plain second remaining stillMissing _ =>
            rw [replaceAll_cons notEmpty stillMissing] at restShape
            exact isBraced ⟨remaining, by rw [isFirst, (List.cons.inj restShape).1]; rfl⟩

end Replacement

section Values

variable {stem marker : Text} {entries : List Placeholder}
  (isMarker : IsMark marker)
  (isStem : IsMark stem)
  (arePlaceholders : ∀ entry ∈ entries, IsPlaceholder marker entry)
  (haveStem : ∀ entry ∈ entries, stem <+: entry.1)

include isMarker isStem arePlaceholders haveStem

/-- Putting tokens back into a value without formatting placeholders neither makes nor
destroys an opener. -/
theorem holdsOpener_restore
    {value : Text}
    (noMarker : ¬ marker <:+: value)
    (settled : Settled stem value) :
    HoldsOpener (restore value entries) ↔ HoldsOpener value := by
  induction entries generalizing value with
  | nil => exact Iff.rfl
  | cons entry rest inductionHypothesis =>
      obtain ⟨isPlaceholder, restPlaceholders⟩ := List.forall_mem_cons.mp arePlaceholders
      obtain ⟨hasStem, restStem⟩ := List.forall_mem_cons.mp haveStem
      have onward : ∀ {changed : Text}, ¬ marker <:+: changed → Settled stem changed →
          (HoldsOpener (restore changed rest) ↔ HoldsOpener changed) :=
        fun stillNoMarker => inductionHypothesis restPlaceholders restStem stillNoMarker
      have stillNoMarker :=
        (replaceAll_escape_of_isPlaceholder isMarker isPlaceholder noMarker).2
      rw [restore_cons]
      -- A formatting placeholder would bring the marker with it, so it is not in the value.
      rcases isPlaceholder.sort with isFormatting | ⟨body, kept, isPersonal⟩
      · have missing : ¬ entry.1 <:+: value :=
          fun isInfix => noMarker (isFormatting.isInfix.trans isInfix)
        rw [replaceAll_eq_self isPlaceholder.target.ne_nil missing]
        exact onward noMarker settled
      · obtain ⟨stemOthers, rfl, _⟩ := isStem
        have isMark := isPlaceholder.target
        obtain ⟨others, target, _⟩ := isPlaceholder.target
        rw [target] at hasStem isMark stillNoMarker ⊢
        rw [kept] at stillNoMarker ⊢
        rw [onward stillNoMarker (settled_replaceAll isPersonal hasStem isMark settled)]
        exact holdsOpener_replaceAll isPersonal hasStem isMark settled

end Values

end EmailComposer.Token
