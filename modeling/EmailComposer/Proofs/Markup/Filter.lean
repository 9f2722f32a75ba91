import EmailComposer.Markup.Sanitize
import EmailComposer.Proofs.Text.Scan

namespace EmailComposer.Markup

/-!
# The attributes that a filter keeps

The filter keeps the first acceptable value of every name that it admits, in the order of the
attributes. A name is looked at in lower case, so spellings of one name compete, and a value
that is refused leaves the name open for a later one. Dangerous names are refused whatever
names are allowed.
-/

open EmailComposer.Text

section FirstOfEach

/-- The first entry of every name. -/
def firstOfEach : List Attribute → List Attribute
  | [] => []
  | entry :: rest => entry :: (firstOfEach rest).filter fun other => other.1 ≠ entry.1

theorem mem_of_mem_firstOfEach
    {entries : List Attribute}
    {entry : Attribute}
    (isFirst : entry ∈ firstOfEach entries) :
    entry ∈ entries := by
  induction entries with
  | nil => exact isFirst
  | cons first rest inductionHypothesis =>
      rcases List.mem_cons.mp isFirst with rfl | inRest
      · simp
      · exact List.mem_cons_of_mem _ (inductionHypothesis (List.mem_of_mem_filter inRest))

/-- The first chosen entries are those in front of which no entry of their name is chosen. -/
theorem mem_firstOfEach_filter_iff
    {chooses : Attribute → Bool}
    {entries : List Attribute}
    {entry : Attribute} :
    entry ∈ firstOfEach (entries.filter chooses) ↔
      chooses entry = true ∧
        ∃ before after,
          entries = before ++ entry :: after ∧
            ∀ earlier ∈ before, earlier.1 = entry.1 → chooses earlier = false := by
  induction entries with
  | nil => simp [firstOfEach]
  | cons first rest inductionHypothesis =>
      by_cases isChosen : chooses first = true
      · rw [List.filter_cons_of_pos isChosen, firstOfEach, List.mem_cons, List.mem_filter,
          inductionHypothesis, decide_eq_true_eq]
        constructor
        · rintro (rfl | ⟨⟨entryChosen, before, after, rfl, refused⟩, different⟩)
          · exact ⟨isChosen, [], rest, rfl, by simp⟩
          · refine ⟨entryChosen, first :: before, after, rfl, ?_⟩
            exact List.forall_mem_cons.mpr ⟨fun same => absurd same.symm different, refused⟩
        · rintro ⟨entryChosen, before, after, shape, refused⟩
          cases before with
          | nil => exact .inl (List.cons.inj shape).1.symm
          | cons head others =>
              obtain ⟨rfl, rfl⟩ := List.cons.inj shape
              obtain ⟨firstRefused, othersRefused⟩ := List.forall_mem_cons.mp refused
              refine .inr ⟨⟨entryChosen, others, after, rfl, othersRefused⟩, fun same => ?_⟩
              simp [firstRefused same.symm] at isChosen
      · rw [List.filter_cons_of_neg isChosen, inductionHypothesis]
        rw [Bool.not_eq_true] at isChosen
        refine and_congr_right fun entryChosen => ?_
        constructor
        · rintro ⟨before, after, rfl, refused⟩
          exact ⟨first :: before, after, rfl,
            List.forall_mem_cons.mpr ⟨fun _ => isChosen, refused⟩⟩
        · rintro ⟨before, after, shape, refused⟩
          cases before with
          | nil =>
              obtain ⟨rfl, _⟩ := List.cons.inj shape
              simp [isChosen] at entryChosen
          | cons head others =>
              obtain ⟨rfl, rfl⟩ := List.cons.inj shape
              exact ⟨others, after, rfl, (List.forall_mem_cons.mp refused).2⟩

/-- Of entries with one name only one is the first. -/
theorem firstOfEach_of_one_name
    {entries : List Attribute}
    {name : Text}
    (oneName : ∀ entry ∈ entries, entry.1 = name) :
    firstOfEach entries = entries.take 1 := by
  cases entries with
  | nil => rfl
  | cons first rest =>
      have noneLeft : (firstOfEach rest).filter (fun other => other.1 ≠ first.1) = [] := by
        rw [List.filter_eq_nil_iff]
        intro other isFirst
        have otherName := oneName other (List.mem_cons_of_mem _ (mem_of_mem_firstOfEach isFirst))
        simp [otherName, oneName first (by simp)]
      rw [firstOfEach, noneLeft]
      rfl

/-- No name comes twice among the first entries of every name. -/
theorem nodup_firstOfEach
    (entries : List Attribute) :
    ((firstOfEach entries).map Prod.fst).Nodup := by
  induction entries with
  | nil => exact .nil
  | cons entry rest inductionHypothesis =>
      have others : (((firstOfEach rest).filter fun other => other.1 ≠ entry.1).map
          Prod.fst).Nodup :=
        inductionHypothesis.sublist (List.filter_sublist.map _)
      rw [firstOfEach, List.map_cons, List.nodup_cons]
      refine ⟨?_, others⟩
      intro member
      obtain ⟨other, isOther, sameName⟩ := List.mem_map.mp member
      have different := (List.mem_filter.mp isOther).2
      exact absurd sameName (by simpa using different)

/-- Entries of different names are all first. -/
theorem firstOfEach_of_nodup
    {entries : List Attribute}
    (noDuplicates : (entries.map Prod.fst).Nodup) :
    firstOfEach entries = entries := by
  induction entries with
  | nil => rfl
  | cons entry rest inductionHypothesis =>
      rw [List.map_cons, List.nodup_cons] at noDuplicates
      have others : rest.filter (fun other => other.1 ≠ entry.1) = rest := by
        rw [List.filter_eq_self]
        intro other member
        have different : other.1 ≠ entry.1 := by
          intro same
          exact noDuplicates.1 (same ▸ List.mem_map_of_mem member)
        simpa using different
      rw [firstOfEach, inductionHypothesis noDuplicates.2, others]

end FirstOfEach

/-- An attribute with its name in lower case. -/
def lowerName (entry : Attribute) : Attribute :=
  (lower entry.1, entry.2)

/-- An attribute with its value escaped. -/
def escapeValue (entry : Attribute) : Attribute :=
  (entry.1, escape entry.2)

/-- The value holds the marker, if there is one. -/
def holdsMarker (marker : Option Text) (value : Text) : Bool :=
  marker.any fun text => !text.isEmpty && includes text value

/-- The value is a URL, by the name it is given for, and its protocol is not allowed. -/
def isUnsafeUrl (name value : Text) : Bool :=
  name ∈ urlAttributes && !Url.hasAllowedProtocol value

/-- The filter can keep the attribute: its name is allowed and not dangerous, its value does
not hold the marker and is no unsafe URL. -/
def admits (allowed : List Text) (marker : Option Text) (entry : Attribute) : Bool :=
  !isDangerousAttribute entry.1 && entry.1 ∈ allowed && !holdsMarker marker entry.2 &&
    !isUnsafeUrl entry.1 entry.2

namespace FilteredAttributes

variable {tagName : Text} {allowed : List Text} {marker : Option Text}

/-- The filter keeps an attribute that it admits, unless its name has been kept before. -/
theorem kept_add
    (filtered : FilteredAttributes)
    (entry : Attribute) :
    (filtered.add tagName allowed marker entry).kept =
      if admits allowed marker (lowerName entry) ∧
          (lowerName entry).1 ∉ filtered.kept.map Prod.fst then
        filtered.kept ++ [escapeValue (lowerName entry)]
      else
        filtered.kept := by
  have keptBefore : (filtered.kept.any fun earlier => decide (earlier.1 = lower entry.1)) =
      decide (lower entry.1 ∈ filtered.kept.map Prod.fst) := by
    rw [Bool.eq_iff_iff]
    simp only [List.any_eq_true, decide_eq_true_eq, List.mem_map]
  have step : filtered.add tagName allowed marker entry =
      if isDangerousAttribute (lower entry.1) || lower entry.1 ∉ allowed then
        filtered.drop .disallowedAttribute (tagName ++ "." ++ lower entry.1)
      else if filtered.kept.any fun earlier => earlier.1 = lower entry.1 then
        filtered
      else if holdsMarker marker entry.2 then
        filtered.drop .token (tagName ++ "." ++ lower entry.1)
      else if isUnsafeUrl (lower entry.1) entry.2 then
        filtered.drop .unsafeUrl (tagName ++ "." ++ lower entry.1 ++ "=" ++ entry.2)
      else
        { filtered with kept := filtered.kept ++ [(lower entry.1, escape entry.2)] } := rfl
  rw [step, keptBefore, admits, lowerName, escapeValue]
  cases isDangerousAttribute (lower entry.1) with
  | true => simp [drop]
  | false =>
      by_cases isAllowed : lower entry.1 ∈ allowed
      · by_cases isKept : lower entry.1 ∈ filtered.kept.map Prod.fst
        · simp [isAllowed, isKept]
        · simp only [isAllowed, isKept]
          cases holdsMarker marker entry.2 <;> cases isUnsafeUrl (lower entry.1) entry.2 <;>
            simp [drop]
      · simp [isAllowed, drop]

/-- What the filter keeps of some attributes behind what it has kept before. -/
theorem kept_foldl_add
    (entries : List Attribute)
    (filtered : FilteredAttributes) :
    (entries.foldl (add tagName allowed marker) filtered).kept =
      filtered.kept ++
        ((firstOfEach ((entries.map lowerName).filter (admits allowed marker))).filter
          fun entry => entry.1 ∉ filtered.kept.map Prod.fst).map escapeValue := by
  induction entries generalizing filtered with
  | nil => simp [firstOfEach]
  | cons entry rest inductionHypothesis =>
      rw [List.foldl_cons, inductionHypothesis, kept_add, List.map_cons]
      generalize lowerName entry = named
      by_cases isAdmitted : admits allowed marker named = true
      · rw [List.filter_cons_of_pos isAdmitted, firstOfEach]
        by_cases isKept : named.1 ∈ filtered.kept.map Prod.fst
        · -- Entries of this name are filtered out by `filtered.kept` anyway.
          have absorbed : ∀ other : Attribute,
              (decide (other.1 ∉ filtered.kept.map Prod.fst) && decide (other.1 ≠ named.1)) =
                decide (other.1 ∉ filtered.kept.map Prod.fst) := by
            intro other
            by_cases sameName : other.1 = named.1
            · simp [sameName, isKept]
            · simp [sameName]
          rw [if_neg (by simp [isKept]), List.filter_cons_of_neg (by simp [isKept]),
            List.filter_filter, List.filter_congr fun other _ => absorbed other]
        · have joined : ∀ other : Attribute,
              decide (other.1 ∉ (filtered.kept ++ [escapeValue named]).map Prod.fst) =
                (decide (other.1 ∉ filtered.kept.map Prod.fst) &&
                  decide (other.1 ≠ named.1)) := by
            intro other
            rw [← Bool.decide_and, decide_eq_decide, List.map_append, List.mem_append, not_or,
              List.map_singleton, List.mem_singleton]
            rfl
          rw [if_pos ⟨isAdmitted, isKept⟩, List.filter_cons_of_pos (by simpa using isKept),
            List.filter_filter, List.filter_congr fun other _ => joined other]
          simp
      · rw [List.filter_cons_of_neg isAdmitted, if_neg (by simp [isAdmitted])]

end FilteredAttributes

/-- The filter keeps the first attribute of every name among those that it admits. -/
theorem kept_filterAttributes_eq
    (tagName : Text)
    (attributes : List Attribute)
    (allowed : List Text)
    (marker : Option Text) :
    (filterAttributes tagName attributes allowed marker).kept =
      (firstOfEach ((attributes.map lowerName).filter
        (admits (allowed.map lower) marker))).map escapeValue := by
  rw [filterAttributes, FilteredAttributes.kept_foldl_add]
  simp [FilteredAttributes.empty]

/-- A list of allowed names admits a name, in whatever case it spells it. No list admits a
dangerous name or one that begins like that of an event handler. -/
structure AdmitsName (allowed : List Text) (name : Text) : Prop where
  listed : name ∈ allowed.map lower
  harmless : name ∉ dangerousAttributes
  noHandler : ¬ ("on" : Text) <+: name

/-- A value may be given for a name: if it is to be a URL, its protocol is allowed. -/
def IsAcceptable (name value : Text) : Prop :=
  name ∈ urlAttributes → Url.hasAllowedProtocol value = true

/-- The first acceptable value among those given for a name, in whatever case the name is
spelled. -/
def IsFirstAcceptable (attributes : List Attribute) (name value : Text) : Prop :=
  IsAcceptable name value ∧
    ∃ before spelling after,
      attributes = before ++ (spelling, value) :: after ∧ lower spelling = name ∧
        ∀ earlier ∈ before, lower earlier.1 = name → ¬ IsAcceptable name earlier.2

theorem isUnsafeUrl_eq_false_iff
    {name value : Text} :
    isUnsafeUrl name value = false ↔ IsAcceptable name value := by
  simp only [isUnsafeUrl, IsAcceptable, Bool.and_eq_false_iff, decide_eq_false_iff_not,
    Bool.not_eq_false', Decidable.imp_iff_not_or]

/-- Without a marker the filter admits the acceptable values of admitted names. -/
theorem admits_iff
    {allowed : List Text}
    {entry : Attribute} :
    admits (allowed.map lower) none entry = true ↔
      AdmitsName allowed entry.1 ∧ IsAcceptable entry.1 entry.2 := by
  have noMarker : holdsMarker none entry.2 = false := rfl
  have harmless : isDangerousAttribute entry.1 = false ↔
      entry.1 ∉ dangerousAttributes ∧ ¬ ("on" : Text) <+: entry.1 := by
    rw [isDangerousAttribute, Bool.or_eq_false_iff, decide_eq_false_iff_not, ← startsWith_iff,
      Bool.not_eq_true]
  simp only [admits, noMarker, Bool.and_eq_true, Bool.not_eq_true', harmless, decide_eq_true_eq,
    isUnsafeUrl_eq_false_iff, and_true]
  constructor
  · rintro ⟨⟨⟨isHarmless, noHandler⟩, isListed⟩, isAcceptable⟩
    exact ⟨⟨isListed, isHarmless, noHandler⟩, isAcceptable⟩
  · rintro ⟨⟨isListed, isHarmless, noHandler⟩, isAcceptable⟩
    exact ⟨⟨⟨isHarmless, noHandler⟩, isListed⟩, isAcceptable⟩

/-- The first admitted attribute of a name has the first acceptable value for it. -/
theorem mem_firstOfEach_admits_iff
    {allowed : List Text}
    {attributes : List Attribute}
    {name value : Text} :
    (name, value) ∈ firstOfEach
        ((attributes.map lowerName).filter (admits (allowed.map lower) none)) ↔
      AdmitsName allowed name ∧ IsFirstAcceptable attributes name value := by
  have refused : ∀ entry : Attribute, AdmitsName allowed entry.1 →
      (admits (allowed.map lower) none entry = false ↔ ¬ IsAcceptable entry.1 entry.2) := by
    intro entry isAdmitted
    rw [← Bool.not_eq_true, admits_iff]
    simp [isAdmitted]
  rw [mem_firstOfEach_filter_iff, admits_iff, and_assoc]
  refine and_congr_right fun isAdmitted => and_congr_right fun isAcceptable => ?_
  constructor
  · rintro ⟨before, after, shape, earlierRefused⟩
    obtain ⟨front, back, rfl, rfl, backShape⟩ := List.map_eq_append_iff.mp shape
    obtain ⟨source, rest, rfl, isSource, rfl⟩ := List.map_eq_cons_iff.mp backShape
    obtain ⟨rfl, rfl⟩ := Prod.mk.inj isSource
    refine ⟨front, source.1, rest, rfl, rfl, fun earlier member sameName => ?_⟩
    have earlierFails := earlierRefused _ (List.mem_map_of_mem member) sameName
    rw [← sameName] at isAdmitted ⊢
    exact (refused (lowerName earlier) isAdmitted).mp earlierFails
  · rintro ⟨before, spelling, after, rfl, rfl, earlierRefused⟩
    refine ⟨before.map lowerName, after.map lowerName, by simp [lowerName], ?_⟩
    intro earlier member sameName
    obtain ⟨source, isSource, rfl⟩ := List.mem_map.mp member
    have admitsEarlier : AdmitsName allowed (lowerName source).1 := sameName ▸ isAdmitted
    apply (refused _ admitsEarlier).mpr
    rw [sameName]
    exact earlierRefused source isSource sameName

/--
Whatever names are allowed, the attributes that survive are the first admitted ones of every
name, in order and with escaped values. There is one for a name exactly if the list admits
the name and an acceptable value is given for it, and it has the first of these values.
-/
theorem sanitizeAttributes_keeps_first
    (tagName : Text)
    (attributes : List Attribute)
    (allowed : Option (List Text)) :
    let admitted := allowed.getD (allowedAttributes (lower tagName))
    let kept := sanitizeAttributes tagName attributes allowed
    kept =
        (firstOfEach ((attributes.map lowerName).filter
          (admits (admitted.map lower) none))).map escapeValue ∧
      (kept.map Prod.fst).Nodup ∧
      ∀ name shown,
        (name, shown) ∈ kept ↔
          AdmitsName admitted name ∧
            ∃ value, IsFirstAcceptable attributes name value ∧ shown = escape value := by
  intro admitted kept
  have shape : kept = _ := kept_filterAttributes_eq (lower tagName) attributes admitted none
  refine ⟨shape, ?_, fun name shown => ?_⟩
  · have sameNames : kept.map Prod.fst = _ :=
      (congrArg (List.map Prod.fst) shape).trans List.map_map
    rw [sameNames]
    exact nodup_firstOfEach _
  · rw [shape, List.mem_map]
    constructor
    · rintro ⟨⟨entryName, value⟩, isFirst, same⟩
      obtain ⟨rfl, rfl⟩ := Prod.mk.inj same
      obtain ⟨isAdmitted, isFirstValue⟩ := mem_firstOfEach_admits_iff.mp isFirst
      exact ⟨isAdmitted, value, isFirstValue, rfl⟩
    · rintro ⟨isAdmitted, value, isFirstValue, rfl⟩
      exact ⟨(name, value), mem_firstOfEach_admits_iff.mpr ⟨isAdmitted, isFirstValue⟩, rfl⟩

/-- A refused address leaves its name open, and no list admits a style. -/
example :
    sanitizeAttributes "A"
        [("HREF", "javascript:x"), ("Style", "color: red"), ("href", "https://x"),
          ("Href", "https://y")]
        (some ["Href", "STYLE", "onclick"]) =
      ([("href", "https:&#x2F;&#x2F;x")] : List Attribute) := by
  decide +kernel

end EmailComposer.Markup
