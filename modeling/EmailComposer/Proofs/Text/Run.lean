import Mathlib.Data.List.DropRight
import Mathlib.Data.List.Infix
import Mathlib.Data.List.TakeWhile
import EmailComposer.Text.CharClass

namespace EmailComposer.Text

/-!
# Runs of characters

A scanner takes the longest run of characters of a class. When a printed run is
followed by a character outside the class, or by nothing, the scanner takes exactly
that run. Stripping, joining and dividing texts neither add nor lose characters but
blanks and separators.
-/

variable {keeps : Char → Bool} {run rest text : Text}

/-- No run of a class goes on at the beginning of the text. -/
def Stops (keeps : Char → Bool) (text : Text) : Prop :=
  ∀ char ∈ text.head?, keeps char = false

/-- No run of a class goes on at the end of the text. -/
def StopsAtEnd (keeps : Char → Bool) (text : Text) : Prop :=
  ∀ char ∈ text.getLast?, keeps char = false

theorem stopsAtEnd_concat
    (start : Text)
    {last : Char}
    (stops : keeps last = false) :
    StopsAtEnd keeps (start ++ [last]) := by
  simpa [StopsAtEnd] using stops

theorem stops_nil : Stops keeps [] := by
  simp [Stops]

theorem stops_cons
    {first : Char} :
    Stops keeps (first :: rest) ↔ keeps first = false := by
  simp [Stops]

/-- The scanners test for the end of a run at the first character. -/
theorem stops_iff
    {text : Text} :
    Stops keeps text ↔ (text.head?.map keeps).getD false = false := by
  cases text <;> simp [Stops]

/-- A run of a smaller class ends wherever a run of a larger one does. -/
theorem Stops.of_imp
    {larger : Char → Bool}
    (stops : Stops larger text)
    (implies : ∀ char, keeps char = true → larger char = true) :
    Stops keeps text := by
  intro char member
  have failed := stops char member
  by_contra kept
  rw [implies char (Bool.of_not_eq_false kept)] at failed
  exact Bool.noConfusion failed

theorem StopsAtEnd.of_imp
    {larger : Char → Bool}
    (stops : StopsAtEnd larger text)
    (implies : ∀ char, keeps char = true → larger char = true) :
    StopsAtEnd keeps text := by
  intro char member
  have failed := stops char member
  by_contra kept
  rw [implies char (Bool.of_not_eq_false kept)] at failed
  exact Bool.noConfusion failed

/-- If every character is replaced by a text that begins like it, a run ends where it did. -/
theorem Stops.flatMap
    {change : Char → Text}
    (stops : Stops keeps text)
    (starts : ∀ char, keeps char = false → ∃ first ∈ (change char).head?, keeps first = false) :
    Stops keeps (text.flatMap change) := by
  cases text with
  | nil => exact stops_nil
  | cons char others =>
      obtain ⟨first, isHead, failed⟩ := starts char (stops_cons.mp stops)
      intro other isOther
      have sameHead : first ∈ ((char :: others).flatMap change).head? :=
        List.mem_head?_append_of_mem_head? isHead
      rw [Option.mem_unique isOther sameHead]
      exact failed

/-- If every character is replaced by a text that ends like it, a run ends where it did. -/
theorem StopsAtEnd.flatMap
    {change : Char → Text}
    (stops : StopsAtEnd keeps text)
    (ends : ∀ char, keeps char = false → ∃ last ∈ (change char).getLast?, keeps last = false) :
    StopsAtEnd keeps (text.flatMap change) := by
  cases text using List.reverseRecOn with
  | nil => simp [StopsAtEnd]
  | append_singleton start char =>
      obtain ⟨last, isLast, failed⟩ := ends char (stops char (by simp))
      intro other isOther
      have sameLast : last ∈ ((start ++ [char]).flatMap change).getLast? := by
        rw [List.flatMap_append, List.flatMap_singleton]
        exact List.mem_getLast?_append_of_mem_getLast? isLast
      rw [Option.mem_unique isOther sameLast]
      exact failed

theorem stops_dropWhile : Stops keeps (text.dropWhile keeps) := by
  intro char member
  have failed := List.head?_dropWhile_not keeps text
  rw [Option.mem_def] at member
  simpa [member] using failed

theorem takeWhile_run_append
    (inClass : ∀ char ∈ run, keeps char = true)
    (stops : Stops keeps rest) :
    (run ++ rest).takeWhile keeps = run := by
  rw [List.takeWhile_append_of_pos inClass]
  cases rest with
  | nil => simp
  | cons first others => simp [stops_cons.mp stops]

theorem dropWhile_run_append
    (inClass : ∀ char ∈ run, keeps char = true)
    (stops : Stops keeps rest) :
    (run ++ rest).dropWhile keeps = rest := by
  rw [List.dropWhile_append_of_pos inClass]
  cases rest with
  | nil => rfl
  | cons first others => simp [stops_cons.mp stops]

/-- Where no run goes on, none is taken. -/
theorem takeWhile_of_stops
    (stops : Stops keeps text) :
    text.takeWhile keeps = [] := by
  have taken := takeWhile_run_append (List.forall_mem_nil _) stops
  rwa [List.nil_append] at taken

/-- Where no run goes on, nothing is dropped. -/
theorem dropWhile_of_stops
    (stops : Stops keeps text) :
    text.dropWhile keeps = text := by
  have dropped := dropWhile_run_append (List.forall_mem_nil _) stops
  rwa [List.nil_append] at dropped

/-- A text up to the first separator, printed with the separator and a rest. -/
theorem cut_append_cons
    {separator : Char}
    (apart : separator ∉ run)
    (rest : Text) :
    cut separator (run ++ separator :: rest) = (run, some rest) := by
  have inClass : ∀ char ∈ run, (char != separator) = true := by
    intro char member
    have different : char ≠ separator := fun same => apart (same ▸ member)
    simpa using different
  have stops : Stops (· != separator) (separator :: rest) := stops_cons.mpr (by simp)
  simp [cut, takeWhile_run_append inClass stops, dropWhile_run_append inClass stops]

/-- A text with a separator is what stands before it, the separator and the rest. -/
theorem eq_append_of_cut_eq_some
    {separator : Char}
    (found : cut separator text = (run, some rest)) :
    text = run ++ separator :: rest := by
  unfold cut at found
  split at found
  · cases found
  · rename_i first others isRest
    obtain ⟨isRun, isBehind⟩ := Prod.mk.inj found
    have isSeparator : first = separator := by
      have stops := stops_dropWhile first (by rw [isRest]; rfl)
      simpa using stops
    calc
      text = text.takeWhile (· != separator) ++ text.dropWhile (· != separator) :=
        List.takeWhile_append_dropWhile.symm
      _ = run ++ separator :: rest := by
        rw [isRest, isRun, isSeparator, Option.some.inj isBehind]

/-- What is dropped at the end of a text is a run of the class. -/
theorem exists_append_dropEndWhile
    (drops : Char → Bool)
    (text : Text) :
    ∃ trailing,
      text = dropEndWhile drops text ++ trailing ∧ ∀ char ∈ trailing, drops char = true :=
  ⟨text.rtakeWhile drops, List.rdropWhile_append_rtakeWhile.symm,
    fun _ => List.mem_rtakeWhile_imp⟩

/-- No character that is dropped is left at the end. -/
theorem stopsAtEnd_dropEndWhile
    (drops : Char → Bool)
    (text : Text) :
    StopsAtEnd drops (dropEndWhile drops text) := by
  intro char isLast
  rw [dropEndWhile, List.getLast?_reverse] at isLast
  exact stops_dropWhile char isLast

/-- Nothing is dropped at the end of a text that ends with a character that stays. -/
theorem dropEndWhile_eq_self
    {drops : Char → Bool}
    (stops : StopsAtEnd drops text) :
    dropEndWhile drops text = text := by
  apply List.rdropWhile_eq_self_iff.mpr
  intro notEmpty dropped
  have stays := stops _ (List.getLast_mem_getLast? notEmpty)
  rw [dropped] at stays
  cases stays

/-- A beginning that ends with a character that stays is not dropped at the end. -/
theorem exists_dropEndWhile_append
    {drops : Char → Bool}
    {last : Char}
    (stays : drops last = false)
    (start rest : Text) :
    ∃ ending, dropEndWhile drops (start ++ last :: rest) = start ++ last :: ending := by
  induction rest using List.reverseRecOn with
  | nil => exact ⟨[], List.rdropWhile_concat_neg drops start last (by simp [stays])⟩
  | append_singleton rest final inductionHypothesis =>
      have shape : start ++ last :: (rest ++ [final]) = (start ++ last :: rest) ++ [final] := by
        simp
      rw [shape]
      cases dropsFinal : drops final with
      | true =>
          obtain ⟨ending, kept⟩ := inductionHypothesis
          exact ⟨ending, (List.rdropWhile_concat_pos drops _ final dropsFinal).trans kept⟩
      | false =>
          have kept := List.rdropWhile_concat_neg drops (start ++ last :: rest) final
            (by simp [dropsFinal])
          exact ⟨rest ++ [final], kept.trans shape.symm⟩

/-- Stripping takes blanks from both ends. -/
theorem exists_append_strip
    (text : Text) :
    ∃ leading trailing,
      text = leading ++ (strip text ++ trailing) ∧
        (∀ char ∈ leading, isBlank char = true) ∧ ∀ char ∈ trailing, isBlank char = true := by
  obtain ⟨trailing, shape, areBlank⟩ := exists_append_dropEndWhile isBlank (text.dropWhile isBlank)
  refine ⟨text.takeWhile isBlank, trailing, ?_, fun _ => List.mem_takeWhile_imp, areBlank⟩
  rw [strip, ← shape, List.takeWhile_append_dropWhile]

/-- Stripping takes nothing but blanks. -/
theorem isBlank_or_mem_strip
    {char : Char}
    (member : char ∈ text) :
    isBlank char = true ∨ char ∈ strip text := by
  obtain ⟨leading, trailing, shape, leadingBlank, trailingBlank⟩ := exists_append_strip text
  rw [shape] at member
  rcases List.mem_append.mp member with inLeading | inRest
  · exact .inl (leadingBlank char inLeading)
  · rcases List.mem_append.mp inRest with inStrip | inTrailing
    · exact .inr inStrip
    · exact .inl (trailingBlank char inTrailing)

theorem mem_of_mem_strip
    {char : Char}
    (member : char ∈ strip text) :
    char ∈ text := by
  obtain ⟨leading, trailing, shape, _⟩ := exists_append_strip text
  rw [shape]
  simp [member]

/-- A text that neither begins nor ends with a blank is not changed by stripping. -/
theorem strip_eq_self
    (stops : Stops isBlank text)
    (stopsAtEnd : StopsAtEnd isBlank text) :
    strip text = text := by
  rw [strip, dropWhile_of_stops stops]
  exact dropEndWhile_eq_self stopsAtEnd

theorem stops_strip : Stops isBlank (strip text) := by
  obtain ⟨trailing, shape, _⟩ := exists_append_dropEndWhile isBlank (text.dropWhile isBlank)
  have stops : Stops isBlank (text.dropWhile isBlank) := stops_dropWhile
  intro char isHead
  apply stops char
  rw [shape]
  exact List.mem_head?_append_of_mem_head? isHead

theorem stopsAtEnd_strip : StopsAtEnd isBlank (strip text) :=
  stopsAtEnd_dropEndWhile isBlank (text.dropWhile isBlank)

/-- A character of joined texts comes from the separator or from one of them. -/
theorem mem_joinWith
    {separator : Text}
    {texts : List Text}
    {char : Char}
    (member : char ∈ joinWith separator texts) :
    char ∈ separator ∨ ∃ part ∈ texts, char ∈ part := by
  unfold joinWith at member
  induction texts with
  | nil => simp at member
  | cons first rest inductionHypothesis =>
      cases rest with
      | nil => exact .inr ⟨first, by simp, by simpa using member⟩
      | cons second others =>
          rw [List.intercalate_cons_cons, List.mem_append, List.mem_append] at member
          rcases member with (inFirst | inSeparator) | inRest
          · exact .inr ⟨first, by simp, inFirst⟩
          · exact .inl inSeparator
          · rcases inductionHypothesis inRest with inSeparator | ⟨part, isPart, inPart⟩
            · exact .inl inSeparator
            · exact .inr ⟨part, List.mem_cons_of_mem first isPart, inPart⟩

/-- A character between the separators of a text stands in one of its fields. -/
theorem exists_mem_fields
    {separator char : Char}
    (different : char ≠ separator)
    (member : char ∈ text) :
    ∃ field ∈ fields separator text, char ∈ field := by
  induction text with
  | nil => cases member
  | cons first others inductionHypothesis =>
      by_cases isSeparator : first = separator
      · have inOthers : char ∈ others := by
          rcases List.mem_cons.mp member with rfl | inOthers
          · exact absurd isSeparator different
          · exact inOthers
        obtain ⟨field, isField, inField⟩ := inductionHypothesis inOthers
        exact ⟨field, by simp [fields, isSeparator, isField], inField⟩
      · simp only [fields, if_neg isSeparator]
        rcases List.mem_cons.mp member with rfl | inOthers
        · split
          · exact ⟨[char], by simp, by simp⟩
          · rename_i field remaining _
            exact ⟨char :: field, by simp, by simp⟩
        · obtain ⟨field, isField, inField⟩ := inductionHypothesis inOthers
          split
          · rename_i noFields
            rw [noFields] at isField
            cases isField
          · rename_i firstField remaining shape
            rw [shape] at isField
            rcases List.mem_cons.mp isField with rfl | isLater
            · exact ⟨first :: field, by simp, by simp [inField]⟩
            · exact ⟨field, by simp [isLater], inField⟩

/-- The fields of a text are made of its characters. -/
theorem mem_of_mem_fields
    {separator char : Char}
    {field : Text}
    (isField : field ∈ fields separator text)
    (member : char ∈ field) :
    char ∈ text := by
  induction text generalizing field with
  | nil =>
      rw [List.mem_singleton.mp isField] at member
      cases member
  | cons first others inductionHypothesis =>
      rw [List.mem_cons]
      unfold fields at isField
      split at isField
      · rcases List.mem_cons.mp isField with rfl | isLater
        · cases member
        · exact .inr (inductionHypothesis isLater member)
      · split at isField
        · rw [List.mem_singleton.mp isField] at member
          exact .inl (List.mem_singleton.mp member)
        · rename_i firstField remaining shape
          rcases List.mem_cons.mp isField with rfl | isLater
          · rcases List.mem_cons.mp member with isFirst | inField
            · exact .inl isFirst
            · exact .inr (inductionHypothesis (by simp [shape]) inField)
          · exact .inr (inductionHypothesis (by simp [shape, isLater]) member)

/-- No field holds the separator. -/
theorem not_mem_of_mem_fields
    {separator : Char}
    {field : Text}
    (isField : field ∈ fields separator text) :
    separator ∉ field := by
  induction text generalizing field with
  | nil =>
      rw [List.mem_singleton.mp isField]
      exact List.not_mem_nil
  | cons first others inductionHypothesis =>
      unfold fields at isField
      split at isField
      · rcases List.mem_cons.mp isField with rfl | isLater
        · exact List.not_mem_nil
        · exact inductionHypothesis isLater
      · rename_i notSeparator
        split at isField
        · rw [List.mem_singleton.mp isField, List.mem_singleton]
          exact Ne.symm notSeparator
        · rename_i firstField remaining shape
          rcases List.mem_cons.mp isField with rfl | isLater
          · rw [List.mem_cons, not_or]
            exact ⟨Ne.symm notSeparator, inductionHypothesis (by simp [shape])⟩
          · exact inductionHypothesis (by simp [shape, isLater])

/-- A text without the separator is a single field. -/
theorem fields_of_not_mem
    {separator : Char}
    (missing : separator ∉ text) :
    fields separator text = [text] := by
  induction text with
  | nil => rfl
  | cons first others inductionHypothesis =>
      rw [List.mem_cons, not_or] at missing
      rw [fields, if_neg (Ne.symm missing.1), inductionHypothesis missing.2]

/-- A field is split off at the separator behind it. -/
theorem fields_append_cons
    {separator : Char}
    (missing : separator ∉ text)
    (rest : Text) :
    fields separator (text ++ separator :: rest) = text :: fields separator rest := by
  induction text with
  | nil => simp [fields]
  | cons first others inductionHypothesis =>
      rw [List.mem_cons, not_or] at missing
      rw [List.cons_append, fields, if_neg (Ne.symm missing.1), inductionHypothesis missing.2]

/-- Joined texts that hold no separator are split again. -/
theorem fields_joinWith
    {separator : Char}
    {texts : List Text}
    (notEmpty : texts ≠ [])
    (apart : ∀ text ∈ texts, separator ∉ text) :
    fields separator (joinWith [separator] texts) = texts := by
  induction texts with
  | nil => exact absurd rfl notEmpty
  | cons first rest inductionHypothesis =>
      have firstApart := apart first (by simp)
      cases rest with
      | nil =>
          have single : joinWith [separator] [first] = first := by
            simp [joinWith]
          rw [single, fields_of_not_mem firstApart]
      | cons second others =>
          have onward := inductionHypothesis (by simp)
            fun text member => apart text (List.mem_cons_of_mem first member)
          have joined : joinWith [separator] (first :: second :: others) =
              first ++ separator :: joinWith [separator] (second :: others) := by
            simp [joinWith, List.intercalate_cons_cons]
          rw [joined, fields_append_cons firstApart, onward]

/-- A text is what its characters are replaced by exactly if each is replaced by itself. -/
theorem flatMap_eq_self_iff
    {change : Char → Text}
    (notEmpty : ∀ char, change char ≠ []) :
    text.flatMap change = text ↔ ∀ char ∈ text, change char = [char] := by
  have longer : ∀ text : Text, text.length ≤ (text.flatMap change).length := by
    intro text
    induction text with
    | nil => simp
    | cons first rest inductionHypothesis =>
        have positive := List.length_pos_iff.mpr (notEmpty first)
        rw [List.flatMap_cons, List.length_append, List.length_cons]
        omega
  induction text with
  | nil => simp
  | cons first rest inductionHypothesis =>
      rw [List.flatMap_cons, List.forall_mem_cons]
      apply Iff.trans _ (and_congr_right' inductionHypothesis)
      constructor
      · intro same
        have lengths := congrArg List.length same
        have positive := List.length_pos_iff.mpr (notEmpty first)
        have restLonger := longer rest
        rw [List.length_append, List.length_cons] at lengths
        exact List.append_inj (same.trans List.singleton_append.symm)
          (by rw [List.length_singleton]; omega)
      · rintro ⟨firstSame, restSame⟩
        rw [firstSame, restSame, List.singleton_append]

/-- A text with unified line breaks has no carriage return. -/
theorem return_not_mem_unifyLineBreaks
    (text : Text) :
    '\r' ∉ unifyLineBreaks text := by
  fun_induction unifyLineBreaks text with
  | case1 => exact List.not_mem_nil
  | case2 rest inductionHypothesis =>
      exact List.not_mem_cons_of_ne_of_not_mem (by decide) inductionHypothesis
  | case3 rest notPair inductionHypothesis =>
      exact List.not_mem_cons_of_ne_of_not_mem (by decide) inductionHypothesis
  | case4 first rest notPair notReturn inductionHypothesis =>
      exact List.not_mem_cons_of_ne_of_not_mem (Ne.symm notReturn) inductionHypothesis

/-- A text without carriage returns is not changed by unifying its line breaks. -/
theorem unifyLineBreaks_eq_self
    (noReturn : '\r' ∉ text) :
    unifyLineBreaks text = text := by
  fun_induction unifyLineBreaks text with
  | case1 => rfl
  | case2 rest => exact absurd (by simp) noReturn
  | case3 rest => exact absurd (by simp) noReturn
  | case4 first rest notPair notReturn inductionHypothesis =>
      rw [inductionHypothesis fun member => noReturn (List.mem_cons_of_mem first member)]

/-- No character of a text is among the excluded ones. -/
def Avoids (excluded text : Text) : Prop :=
  ∀ char ∈ text, char ∉ excluded

instance (excluded text : Text) : Decidable (Avoids excluded text) :=
  inferInstanceAs (Decidable (∀ char ∈ text, char ∉ excluded))

theorem Avoids.append
    {excluded first second : Text}
    (avoidsFirst : Avoids excluded first)
    (avoidsSecond : Avoids excluded second) :
    Avoids excluded (first ++ second) :=
  List.forall_mem_append.mpr ⟨avoidsFirst, avoidsSecond⟩

/-- A text of a class of characters avoids what is not in the class. -/
theorem Avoids.of_class
    {excluded : Text}
    (inClass : ∀ char ∈ text, keeps char = true)
    (apart : ∀ char ∈ excluded, keeps char = false) :
    Avoids excluded text := by
  intro char member isExcluded
  have kept := inClass char member
  rw [apart char isExcluded] at kept
  cases kept

theorem Avoids.of_subset
    {excluded larger text : Text}
    (avoids : Avoids larger text)
    (included : excluded ⊆ larger) :
    Avoids excluded text :=
  fun char member isExcluded => avoids char member (included isExcluded)

end EmailComposer.Text
