import EmailComposer.Proofs.Token.Refill

namespace EmailComposer.Token

/-!
# Stretches between tokens

Putting tokens back replaces every placeholder that can be read, whoever put it there. The
result falls into stretches that end with a token, and a braced body is read within one of
them: a token that was put back ends whatever began in front of it.
-/

open EmailComposer.Text
open EmailComposer.Markup

section Braced

variable {body : Text} (notEmpty : body ≠ []) (inside : ∀ char ∈ body, isInside char = true)

theorem readBody?_braced_append
    (notEmpty : body ≠ [])
    (inside : ∀ char ∈ body, isInside char = true)
    (rest : Text) :
    readBody? (braced body ++ rest) = some (body, rest) :=
  readBody?_eq_some_iff.mpr ⟨rfl, notEmpty, inside⟩

include inside

/-- A body that is read where a braced body follows ends with it or in front of it. -/
theorem exists_of_readBody?_append_braced
    {before rest found remaining : Text}
    (isFound : readBody? (before ++ (braced body ++ rest)) = some (found, remaining)) :
    ∃ left,
      remaining = left ++ rest ∧ readBody? (before ++ braced body) = some (found, left) ∧
        (left = [] ∨ ∃ others, left = others ++ braced body ∧ others.length < before.length) := by
  obtain ⟨shape, foundNotEmpty, foundInside⟩ := readBody?_eq_some_iff.mp isFound
  obtain ⟨run, tail, rfl, runInside, tailStops⟩ := exists_run before
  have openedInside : ∀ {word : Text}, (∀ char ∈ word, isInside char = true) →
      ∀ char ∈ '{' :: '{' :: word, isInside char = true := by
    intro word wordInside char member
    simp only [List.mem_cons] at member
    rcases member with rfl | rfl | inWord
    · decide
    · decide
    · exact wordInside char inWord
  have braceStops : ∀ text, Stops isInside ('}' :: text) := fun text => stops_cons.mpr (by decide)
  cases tail with
  | nil =>
      -- Nothing closes in front of the braced body, so what is read ends with it.
      have sameText : (run ++ '{' :: '{' :: body) ++ '}' :: '}' :: rest =
          ('{' :: '{' :: found) ++ '}' :: '}' :: remaining := by
        rw [braced_append, braced_append] at shape
        simpa using shape
      have bothInside : ∀ char ∈ run ++ '{' :: '{' :: body, isInside char = true := by
        intro char member
        exact (List.mem_append.mp member).elim (runInside char) (openedInside inside char)
      obtain ⟨sameRun, sameTail⟩ := run_append_inj sameText bothInside (braceStops _)
        (openedInside foundInside) (braceStops _)
      cases sameTail
      refine ⟨[], rfl, readBody?_eq_some_iff.mpr ⟨?_, foundNotEmpty, foundInside⟩, .inl rfl⟩
      have closed : (run ++ '{' :: '{' :: body) ++ ['}', '}'] =
          ('{' :: '{' :: found) ++ ['}', '}'] := by rw [sameRun]
      simpa [braced] using closed
  | cons head others =>
      have isBrace : head = '}' := by simpa [isInside] using stops_cons.mp tailStops
      rw [isBrace] at shape ⊢
      have sameText : run ++ '}' :: (others ++ (braced body ++ rest)) =
          ('{' :: '{' :: found) ++ '}' :: '}' :: remaining := by
        rw [braced_append found] at shape
        simpa using shape
      obtain ⟨rfl, sameTail⟩ := run_append_inj sameText runInside (braceStops _)
        (openedInside foundInside) (braceStops _)
      cases others with
      | nil =>
          rw [List.nil_append, braced_append] at sameTail
          cases sameTail
      | cons second more =>
          obtain ⟨rfl, rfl⟩ := List.cons.inj (List.cons.inj sameTail).2
          refine ⟨more ++ braced body, (List.append_assoc ..).symm,
            readBody?_eq_some_iff.mpr ⟨?_, foundNotEmpty, foundInside⟩, .inr ⟨more, rfl, ?_⟩⟩
          · rw [braced_append]
            simp
          · simp only [List.length_append, List.length_cons]
            omega

include notEmpty

/-- Tokens are found up to the end of a braced body and behind it. -/
theorem findAll_append_braced
    (before rest : Text) :
    bodyPattern.findAll (before ++ (braced body ++ rest)) =
      bodyPattern.findAll (before ++ braced body) ++ bodyPattern.findAll rest := by
  induction isLength : before.length using Nat.strong_induction_on generalizing before with
  | _ length inductionHypothesis =>
  subst isLength
  cases isFound : readBody? (before ++ (braced body ++ rest)) with
  | some reading =>
      obtain ⟨found, remaining⟩ := reading
      obtain ⟨left, rfl, isFoundBefore, cases⟩ := exists_of_readBody?_append_braced inside isFound
      have step : bodyPattern.findAll (before ++ (braced body ++ rest)) = _ :=
        Pattern.findAll_of_some isFound
      have stepBefore : bodyPattern.findAll (before ++ braced body) = _ :=
        Pattern.findAll_of_some isFoundBefore
      rw [step, stepBefore, List.cons_append]
      rcases cases with rfl | ⟨others, rfl, shorter⟩
      · simp
      · rw [List.append_assoc, inductionHypothesis others.length shorter others rfl]
  | none =>
      cases before with
      | nil =>
          rw [List.nil_append, readBody?_braced_append notEmpty inside] at isFound
          cases isFound
      | cons first others =>
          have missing : readBody? (first :: (others ++ braced body)) = none := by
            rw [Option.eq_none_iff_forall_ne_some]
            rintro ⟨found, left⟩ isFoundBefore
            obtain ⟨shape, foundNotEmpty, foundInside⟩ := readBody?_eq_some_iff.mp isFoundBefore
            have isFoundAfter := readBody?_braced_append foundNotEmpty foundInside (left ++ rest)
            rw [← List.append_assoc, ← shape, ← List.cons_append, List.append_assoc, isFound]
              at isFoundAfter
            cases isFoundAfter
          have step : bodyPattern.findAll (first :: (others ++ (braced body ++ rest))) = _ :=
            Pattern.findAll_of_none isFound
          have stepBefore : bodyPattern.findAll (first :: (others ++ braced body)) = _ :=
            Pattern.findAll_of_none missing
          rw [List.cons_append, List.cons_append, step, stepBefore,
            inductionHypothesis others.length (by simp) others rfl]

end Braced

/-- No token begins in a text without opening braces. -/
theorem findAll_append_of_noBrace
    {start : Text}
    (noBrace : '{' ∉ start)
    (rest : Text) :
    bodyPattern.findAll (start ++ rest) = bodyPattern.findAll rest := by
  induction start with
  | nil => rfl
  | cons first others inductionHypothesis =>
      rw [List.mem_cons, not_or] at noBrace
      have missing : readBody? (first :: (others ++ rest)) = none := by
        rw [Option.eq_none_iff_forall_ne_some]
        rintro ⟨found, remaining⟩ isFound
        have shape := (readBody?_eq_some_iff.mp isFound).1
        rw [braced_append] at shape
        exact noBrace.1 (List.cons.inj shape).1.symm
      have step : bodyPattern.findAll (first :: (others ++ rest)) = _ :=
        Pattern.findAll_of_none missing
      rw [List.cons_append, step, inductionHypothesis noBrace.2]

namespace Weave

/-- The stretches of a weave with its tokens put back, behind a text that is left over: each
ends with a token, and the last one with the weave. -/
def stretchesFrom (start : Text) : Weave → List Text
  | [] => [start]
  | .mark entry :: rest => (start ++ entry.2) :: stretchesFrom [] rest
  | .typed char :: rest => stretchesFrom (start ++ [char]) rest
  | .made text :: rest => stretchesFrom (start ++ text) rest

/-- The stretches of a weave with its tokens put back. -/
def stretches (weave : Weave) : List Text :=
  stretchesFrom [] weave

section Stretches

variable {weave : Weave} {text : Text} {keepsFormatting : Bool}
  (hasMarks : ∀ entry, .mark entry ∈ weave → entry ∈ (mask text keepsFormatting).placeholders)

include hasMarks

theorem findAll_append_restored
    (start : Text) :
    bodyPattern.findAll (start ++ weave.restored) =
      (weave.stretchesFrom start).flatMap bodyPattern.findAll := by
  induction weave generalizing start with
  | nil => simp [restored, stretchesFrom]
  | cons strand rest inductionHypothesis =>
      have onward := inductionHypothesis fun entry member => hasMarks entry (by simp [member])
      have shape : restored (strand :: rest) = strand.restored ++ restored rest := rfl
      rw [shape]
      cases strand with
      | typed char =>
          rw [stretchesFrom, ← onward, List.append_assoc]
          rfl
      | made made =>
          rw [stretchesFrom, ← onward, List.append_assoc]
          rfl
      | mark entry =>
          obtain ⟨body, isBraced, notEmpty, inside, _⟩ :=
            exists_braced_of_mem_mask (hasMarks entry (by simp))
          rw [stretchesFrom, List.flatMap_cons, ← onward, List.nil_append, Strand.restored,
            isBraced]
          exact findAll_append_braced notEmpty inside start _

/-- The tokens of a weave with its tokens put back are found stretch by stretch. -/
theorem findAll_restored :
    bodyPattern.findAll weave.restored = weave.stretches.flatMap bodyPattern.findAll :=
  findAll_append_restored hasMarks []

/-- Where no opening brace is left besides the tokens put back, all tokens are known. -/
theorem isKnown_of_noBrace
    (noBrace : '{' ∉ weave.spelling) :
    ∀ body ∈ bodyPattern.findAll weave.restored, IsKnown keepsFormatting body := by
  induction weave with
  | nil => simp [restored]
  | cons strand rest inductionHypothesis =>
      rw [spelling_cons, List.mem_append, not_or] at noBrace
      have onward := inductionHypothesis (fun entry member => hasMarks entry (by simp [member]))
        noBrace.2
      have shape : restored (strand :: rest) = strand.restored ++ restored rest := rfl
      rw [shape]
      cases strand with
      | typed char =>
          have skipped : bodyPattern.findAll (Strand.restored (.typed char) ++ restored rest) = _ :=
            findAll_append_of_noBrace noBrace.1 _
          rwa [skipped]
      | made made =>
          have skipped : bodyPattern.findAll (Strand.restored (.made made) ++ restored rest) = _ :=
            findAll_append_of_noBrace noBrace.1 _
          rwa [skipped]
      | mark entry =>
          obtain ⟨body, isBraced, notEmpty, inside, isKnown, _⟩ :=
            exists_braced_of_mem_mask (hasMarks entry (by simp))
          have found : bodyPattern.findAll (braced body ++ restored rest) = _ :=
            Pattern.findAll_of_some (readBody?_braced_append notEmpty inside _)
          rw [Strand.restored, isBraced, found]
          exact List.forall_mem_cons.mpr ⟨isKnown, onward⟩

end Stretches

section Reading

/-- A weave can be read so that every placeholder in its text is a mark: typed characters
that spell one out are taken for one. -/
theorem exists_reading
    {entries : List Placeholder}
    (notEmpty : ∀ entry ∈ entries, entry.1 ≠ [])
    (weave : Weave)
    (hasMarks : ∀ entry, .mark entry ∈ weave → entry ∈ entries) :
    ∃ reading : Weave,
      reading.spelling = weave.spelling ∧
        (∀ entry, .mark entry ∈ reading → entry ∈ entries) ∧
        (∀ text, .made text ∈ reading → .made text ∈ weave) ∧
        ∀ entry ∈ entries, ¬ reading.SpellsOut entry := by
  induction isLength : weave.typed.length using Nat.strong_induction_on generalizing weave with
  | _ length inductionHypothesis =>
  subst isLength
  by_cases spelled : ∃ entry ∈ entries, weave.SpellsOut entry
  · obtain ⟨entry, isEntry, earlier, later, rfl⟩ := spelled
    have positive := List.length_pos_iff.mpr (notEmpty entry isEntry)
    have shorter : (typed (earlier ++ .mark entry :: later)).length <
        (typed (earlier ++ entry.1.map .typed ++ later)).length := by
      have markShape : typed (.mark entry :: later) = typed later := rfl
      rw [typed_append, typed_append, typed_append, typed_map_typed, markShape]
      simp only [List.length_append]
      omega
    have stillMarks : ∀ other, .mark other ∈ earlier ++ .mark entry :: later → other ∈ entries := by
      intro other member
      simp only [List.mem_append, List.mem_cons, Strand.mark.injEq] at member
      rcases member with inEarlier | rfl | inLater
      · exact hasMarks other (by simp [inEarlier])
      · exact isEntry
      · exact hasMarks other (by simp [inLater])
    obtain ⟨reading, sameText, readingMarks, readingMade, notSpelled⟩ :=
      inductionHypothesis _ shorter _ stillMarks rfl
    refine ⟨reading, ?_, readingMarks, fun text member => ?_, notSpelled⟩
    · rw [sameText, spelling_append, spelling_cons, spelling_append, spelling_append,
        spelling_map_typed, List.append_assoc]
      rfl
    · have inMarked := readingMade text member
      simp only [List.mem_append, List.mem_cons, reduceCtorEq, false_or] at inMarked
      rcases inMarked with inEarlier | inLater
      · simp [inEarlier]
      · simp [inLater]
  · exact ⟨weave, rfl, hasMarks, fun _ member => member,
      fun entry isEntry spellsOut => spelled ⟨entry, isEntry, spellsOut⟩⟩

end Reading

end Weave

end EmailComposer.Token
