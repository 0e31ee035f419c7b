import UtilityMarkup.Proofs.Words

/-!
# Class lists and their texts

A class list can be put together in several ways, and is always what one gets by collecting all its
texts at once. It has the classes that its text has as words, where a word of a text is a stretch
without blanks that has a blank or an end of the text on either side.
-/

namespace UtilityMarkup

namespace Text

/-! ### Words in their surroundings -/

/-- The stretch occurs among the characters with a blank or nothing on either side. -/
def StandsApart (stretch chars : List Char) : Prop :=
  ∃ before after, chars = before ++ stretch ++ after ∧
    (∀ c ∈ before.getLast?, isBlank c = true) ∧ ∀ c ∈ after.head?, isBlank c = true

namespace StandsApart

variable {stretch front rest : List Char} {c : Char}

lemma self (stretch : List Char) : StandsApart stretch stretch :=
  ⟨[], [], by simp, by simp, by simp⟩

lemma append_blank (hc : isBlank c = true) (h : StandsApart stretch front) (rest : List Char) :
    StandsApart stretch (front ++ c :: rest) := by
  obtain ⟨before, after, rfl, hbefore, hafter⟩ := h
  refine ⟨before, after ++ c :: rest, by simp, hbefore, ?_⟩
  cases after with
  | nil => simpa using hc
  | cons d after => simpa using hafter

lemma blank_append (hc : isBlank c = true) (h : StandsApart stretch rest) (front : List Char) :
    StandsApart stretch (front ++ c :: rest) := by
  obtain ⟨before, after, rfl, hbefore, hafter⟩ := h
  refine ⟨front ++ c :: before, after, by simp, ?_, hafter⟩
  rw [List.getLast?_append_of_ne_nil _ (List.cons_ne_nil _ _)]
  cases before with
  | nil => simpa using hc
  | cons d before => simpa using hbefore

end StandsApart

lemma standsApart_of_mem_stretches {chars stretch : List Char} (h : stretch ∈ stretches chars) :
    (∀ c ∈ stretch, isBlank c = false) ∧ StandsApart stretch chars := by
  -- A blank cuts the text in two, and each stretch belongs to one of the pieces.
  induction hlength : chars.length using Nat.strong_induction_on generalizing chars with
  | _ length ih =>
    by_cases hunbroken : ∀ c ∈ chars, isBlank c = false
    · rw [stretches_of_unbroken hunbroken, List.mem_singleton] at h
      subst h
      exact ⟨hunbroken, .self _⟩
    · simp only [not_forall, Bool.not_eq_false] at hunbroken
      obtain ⟨c, hmem, hc⟩ := hunbroken
      obtain ⟨front, rest, rfl⟩ := List.append_of_mem hmem
      simp only [List.length_append, List.length_cons] at hlength
      rw [stretches_append_cons hc, List.mem_append] at h
      rcases h with hfront | hrest
      · obtain ⟨hstretch, hstands⟩ := ih front.length (by omega) hfront rfl
        exact ⟨hstretch, hstands.append_blank hc rest⟩
      · obtain ⟨hstretch, hstands⟩ := ih rest.length (by omega) hrest rfl
        exact ⟨hstretch, hstands.blank_append hc front⟩

lemma mem_stretches_of_standsApart {chars stretch : List Char}
    (hstretch : ∀ c ∈ stretch, isBlank c = false) (h : StandsApart stretch chars) :
    stretch ∈ stretches chars := by
  obtain ⟨before, after, rfl, hbefore, hafter⟩ := h
  have hfirst : stretch ∈ stretches (stretch ++ after) := by
    cases after with
    | nil => simp [stretches_of_unbroken hstretch]
    | cons d after =>
      rw [stretches_append_cons (hafter d rfl), stretches_of_unbroken hstretch]
      exact List.mem_cons_self
  rcases List.eq_nil_or_concat' before with rfl | ⟨front, c, rfl⟩
  · exact hfirst
  · rw [List.append_assoc, List.append_assoc, List.singleton_append,
      stretches_append_cons (hbefore c (by simp))]
    exact List.mem_append_right _ hfirst

/-- The word is one of those into which blanks divide the text. -/
def HasWord (text word : String) : Prop :=
  IsWord word ∧ StandsApart word.toList text.toList

theorem mem_words_iff {text word : String} : word ∈ words text ↔ HasWord text word := by
  simp only [words, List.mem_map, List.mem_filter, Bool.not_eq_true', List.isEmpty_eq_false_iff]
  constructor
  · rintro ⟨stretch, ⟨hmem, hne⟩, rfl⟩
    obtain ⟨hunbroken, hstands⟩ := standsApart_of_mem_stretches hmem
    refine ⟨⟨?_, unbroken_ofList_iff.mpr hunbroken⟩, by rwa [String.toList_ofList]⟩
    rwa [ne_eq, ← String.toList_eq_nil_iff, String.toList_ofList]
  · rintro ⟨hword, hstands⟩
    exact ⟨word.toList, ⟨mem_stretches_of_standsApart hword.unbroken hstands,
      fun hempty => hword.ne_empty (String.toList_eq_nil_iff.mp hempty)⟩, String.ofList_toList⟩

lemma isWord_of_mem_words {text word : String} (h : word ∈ words text) : IsWord word :=
  (mem_words_iff.mp h).1

end Text

namespace Classes

/-! ### Ways to put a list together -/

inductive Assembly where
  | collect (texts : List String)
  | push (start : Assembly) (text : String)
  | extend (start more : Assembly)

namespace Assembly

def classes : Assembly → Classes
  | collect texts => ofList texts
  | push start text => start.classes.push text
  | extend start more => start.classes ++ more.classes

/-- All texts that are collected or pushed, in the order of the list. -/
def texts : Assembly → List String
  | collect texts => texts
  | push start text => start.texts ++ [text]
  | extend start more => start.texts ++ more.texts

/-- It does not matter how the texts come into a list. -/
lemma classes_eq_ofList (assembly : Assembly) : assembly.classes = ofList assembly.texts := by
  induction assembly with
  | collect texts => rfl
  | push start text ih => rw [classes, texts, ih, ofList_append, Classes.push]
  | extend start more ihstart ihmore => rw [classes, texts, ihstart, ihmore, ofList_append]

end Assembly

lemma append_ofList_eq_foldl_push (classes : Classes) (texts : List String) :
    classes ++ ofList texts = texts.foldl push classes := by
  induction texts generalizing classes with
  | nil => exact classes.append_empty
  | cons text texts ih => rw [List.foldl_cons, ← ih, push, append_assoc, ← ofList_cons]

lemma contains_iff_mem_words_text {classes : Classes} {name : String} :
    classes.contains name = true ↔ name ∈ Text.words classes.text := by
  rw [words_text, List.mem_flatMap, contains, List.any_eq_true]
  simp only [List.contains_iff_mem]

lemma text_eq_empty_iff {classes : Classes} : classes.text = "" ↔ classes.isEmpty = true := by
  rw [text, isEmpty, List.isEmpty_iff]
  constructor
  · intro htext
    cases hentries : classes.entries with
    | nil => rfl
    | cons entry entries =>
      have hentry : entry ≠ "" := (classes.clean entry (by simp [hentries])).1
      rw [hentries] at htext
      cases entries with
      | nil => exact absurd (by simpa using htext) hentry
      | cons next entries =>
        rw [String.intercalate_cons_cons, String.append_eq_empty_iff,
          String.append_eq_empty_iff] at htext
        exact absurd htext.1.1 hentry
  · intro hentries
    rw [hentries]
    rfl

/-- A text adds just itself to the classes around it exactly when it is a word. -/
lemma words_push_append_iff {before after : Classes} {text : String} :
    Text.words (before.push text ++ after).text =
        Text.words before.text ++ text :: Text.words after.text ↔
      Text.IsWord text := by
  have hwords : Text.words (before.push text ++ after).text =
      Text.words before.text ++ (ofList [text]).entries.flatMap Text.words ++
        Text.words after.text := by
    simp only [words_text, push, entries_append, List.flatMap_append]
  rw [hwords, List.append_cons, List.append_left_inj, List.append_right_inj]
  constructor
  · intro h
    have hmem : text ∈ (ofList [text]).entries.flatMap Text.words := by rw [h]; simp
    obtain ⟨entry, -, hword⟩ := List.mem_flatMap.mp hmem
    exact Text.isWord_of_mem_words hword
  · intro h
    rw [entries_ofList_of_isWord fun _ htext => List.mem_singleton.mp htext ▸ h,
      List.flatMap_singleton, h.words_eq]

/-- However a list is put together, its entries are the given texts in order, trimmed and without
those of which nothing remains; the list has the classes that are the words of its text, and no text
only when it is empty. -/
theorem assembly_agrees_with_text (assembly : Assembly) :
    let classes := assembly.classes
    classes.entries = (assembly.texts.map Text.trim).filter (· ≠ "") ∧
    (∀ entry ∈ classes.entries, entry ≠ "" ∧
      (∀ c ∈ entry.toList.head?, Text.isBlank c = false) ∧
      ∀ c ∈ entry.toList.getLast?, Text.isBlank c = false) ∧
    (∀ texts, classes ++ ofList texts = texts.foldl push classes) ∧
    ofList classes.entries = classes ∧
    (∀ name, (classes.contains name = true ↔ name ∈ Text.words classes.text) ∧
      (name ∈ Text.words classes.text ↔ Text.HasWord classes.text name)) ∧
    (classes.text = "" ↔ classes.isEmpty = true) := by
  intro classes
  refine ⟨?_, fun entry hentry => ?_, classes.append_ofList_eq_foldl_push, classes.ofList_entries,
    fun name => ⟨contains_iff_mem_words_text, Text.mem_words_iff⟩, text_eq_empty_iff⟩
  · rw [← entries_ofList, ← assembly.classes_eq_ofList]
  · obtain ⟨hne, htrim⟩ := classes.clean entry hentry
    exact ⟨hne, Text.trim_eq_self_iff.mp htrim⟩

def menuClasses : Assembly :=
  .push (.extend (.collect ["flex", " \t"]) (.collect ["gap-4 "])) "left-0  right-0\tmx-auto"

theorem assembly_agrees_with_text_menu :
    "gap-4" ∈ menuClasses.classes.entries ∧ menuClasses.classes.contains "mx-auto" = true ∧
      "mx-auto" ∈ Text.words menuClasses.classes.text ∧ menuClasses.classes.text ≠ "" := by
  obtain ⟨hentries, -, -, -, hwords, hempty⟩ := assembly_agrees_with_text menuClasses
  have hcontains : menuClasses.classes.contains "mx-auto" = true := by decide +kernel
  refine ⟨?_, hcontains, (hwords "mx-auto").1.mp hcontains, fun h => ?_⟩
  · rw [hentries]
    decide +kernel
  · exact absurd (hempty.mp h) (by decide +kernel)

end Classes

end UtilityMarkup
