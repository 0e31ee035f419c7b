import Mathlib.Data.List.TakeWhile
import UtilityMarkup.Markup.Drawing
import UtilityMarkup.Proofs.FirstOccurrence

/-!
# Insertion of classes

Classes are added to a drawing by inserting text at one place: right behind the name of the root, or
at the front of the value of the class attribute that its open tag has. The same place is found
again afterwards, so classes that are added one after the other could have been added at once.
-/

namespace UtilityMarkup.Markup

open Text

variable {classes front tag after value : List Char}

/-- A value behind the classes that are put in front of it. Right before the closing quote no blank
is needed. -/
def spaced (value : List Char) : List Char :=
  if value.head? = some '"' then value else ' ' :: value

/-! ### Places -/

/-- Where classes are added: nowhere, behind the name of the root, or in front of the value of its
class attribute. -/
inductive HasClassPlace : List Char → Prop
  | noRoot {markup : List Char} (hroot : ¬rootTag <:+: markup) : HasClassPlace markup
  | behindName {front after : List Char} (hroot : StandsFirst rootTag front)
      (hclass : ¬classOpening <:+: after.takeWhile (· ≠ '>')) :
      HasClassPlace (front ++ rootTag ++ after)
  | inValue {front tag value : List Char} (hroot : StandsFirst rootTag front) (htag : '>' ∉ tag)
      (hclass : StandsFirst classOpening tag) :
      HasClassPlace (front ++ rootTag ++ (tag ++ classOpening ++ value))

theorem hasClassPlace (markup : List Char) : HasClassPlace markup := by
  cases hsplit : splitAt? rootTag markup with
  | none => exact .noRoot (splitAt?_eq_none_iff.mp hsplit)
  | some parts =>
    obtain ⟨front, after⟩ := parts
    obtain ⟨rfl, hroot⟩ := splitAt?_eq_some_iff.mp hsplit
    cases hclass : splitAt? classOpening (after.takeWhile (· ≠ '>')) with
    | none => exact .behindName hroot (splitAt?_eq_none_iff.mp hclass)
    | some parts =>
      obtain ⟨tag, others⟩ := parts
      obtain ⟨htake, hfirst⟩ := splitAt?_eq_some_iff.mp hclass
      have htag : '>' ∉ tag := by
        intro hmem
        have hkept : '>' ∈ after.takeWhile (· ≠ '>') := by
          rw [htake, List.append_assoc]
          exact List.mem_append_left _ hmem
        simpa using List.mem_takeWhile_imp hkept
      obtain ⟨rest, hrest⟩ := List.takeWhile_prefix (· ≠ '>') (l := after)
      have hafter : after = tag ++ classOpening ++ (others ++ rest) := by
        rw [← List.append_assoc, ← htake, hrest]
      rw [hafter]
      exact .inValue hroot htag hfirst

lemma insertClasses_of_noRoot {markup : List Char} (hroot : ¬rootTag <:+: markup) :
    insertClasses classes markup = markup := by
  rw [insertClasses, splitAt?_eq_none_iff.mpr hroot]

lemma insertClasses_behindName (hroot : StandsFirst rootTag front)
    (hclass : ¬classOpening <:+: after.takeWhile (· ≠ '>')) :
    insertClasses classes (front ++ rootTag ++ after) =
      front ++ rootTag ++ (classOpening ++ classes ++ ['"']) ++ after := by
  have hsplit : splitAt? rootTag (front ++ rootTag ++ after) = some (front, after) :=
    splitAt?_eq_some_iff.mpr ⟨rfl, hroot⟩
  rw [insertClasses, hsplit]
  simp only [splitAt?_eq_none_iff.mpr hclass]
  simp

lemma insertClasses_inValue (hroot : StandsFirst rootTag front) (htag : '>' ∉ tag)
    (hclass : StandsFirst classOpening tag) :
    insertClasses classes (front ++ rootTag ++ (tag ++ classOpening ++ value)) =
      front ++ rootTag ++ (tag ++ classOpening ++ (classes ++ spaced value)) := by
  have hopening : ∀ c ∈ tag ++ classOpening, decide (c ≠ '>') = true := by
    rw [List.forall_mem_append, ← List.forall_iff_forall_mem (l := classOpening)]
    exact ⟨fun c hc => decide_eq_true fun heq => htag (heq ▸ hc), by decide⟩
  have hsplit : splitAt? rootTag (front ++ rootTag ++ (tag ++ classOpening ++ value)) =
      some (front, tag ++ classOpening ++ value) :=
    splitAt?_eq_some_iff.mpr ⟨rfl, hroot⟩
  have hvalue : splitAt? classOpening ((tag ++ classOpening ++ value).takeWhile (· ≠ '>')) =
      some (tag, value.takeWhile (· ≠ '>')) :=
    splitAt?_eq_some_iff.mpr ⟨List.takeWhile_append_of_pos hopening, hclass⟩
  rw [insertClasses, hsplit]
  simp only [hvalue]
  rw [← List.length_append, List.drop_left]
  simp only [spaced, List.append_assoc]

/-! ### One insertion -/

/-- All that is added stands in one piece behind the first `<svg` and in front of the first `>`. -/
theorem insertClasses_eq_insertion (classes : List Char) {markup : List Char}
    (hroot : rootTag <:+: markup) :
    ∃ front tag inserted after,
      markup = front ++ rootTag ++ tag ++ after ∧
      StandsFirst rootTag front ∧
      '>' ∉ tag ∧
      insertClasses classes markup = front ++ rootTag ++ tag ++ inserted ++ after ∧
      (tag = [] ∧ ¬classOpening <:+: after.takeWhile (· ≠ '>') ∧
          inserted = classOpening ++ classes ++ ['"'] ∨
        classOpening <:+ tag ∧
          inserted = classes ++ if after.head? = some '"' then [] else [' ']) := by
  cases hasClassPlace markup with
  | noRoot hnone => exact absurd hroot hnone
  | @behindName front after hfirst hclass =>
    exact ⟨front, [], _, after, by simp, hfirst, by simp,
      by rw [insertClasses_behindName hfirst hclass, List.append_nil], .inl ⟨rfl, hclass, rfl⟩⟩
  | @inValue front tag value hfirst htag hclass =>
    refine ⟨front, tag ++ classOpening, classes ++ if value.head? = some '"' then [] else [' '],
      value, by simp, hfirst, ?_, ?_, .inr ⟨List.suffix_append _ _, rfl⟩⟩
    · rw [List.mem_append, not_or]
      exact ⟨htag, by decide⟩
    · rw [insertClasses_inValue hfirst htag hclass, spaced]
      split <;> simp

/-! ### Repeated insertion -/

lemma spaced_append {more : List Char} (hne : more ≠ []) (hhead : more.head? ≠ some '"')
    (value : List Char) : spaced (more ++ value) = ' ' :: (more ++ value) := by
  rw [spaced, List.head?_append_of_ne_nil _ hne, if_neg hhead]

/-- The place of the first insertion is found again: an attribute that it added stands right behind
the name of the root, and one that it extended still starts where it did. -/
theorem insertClasses_insertClasses {more : List Char} (hne : more ≠ [])
    (hhead : more.head? ≠ some '"') (markup : List Char) :
    insertClasses classes (insertClasses more markup) =
      insertClasses (classes ++ ' ' :: more) markup := by
  cases hasClassPlace markup with
  | noRoot hnone =>
    rw [insertClasses_of_noRoot hnone, insertClasses_of_noRoot hnone,
      insertClasses_of_noRoot hnone]
  | @behindName front after hfirst hclass =>
    have hagain : front ++ rootTag ++ (classOpening ++ more ++ ['"']) ++ after =
        front ++ rootTag ++ ([] ++ classOpening ++ (more ++ '"' :: after)) := by simp
    rw [insertClasses_behindName hfirst hclass, insertClasses_behindName hfirst hclass, hagain,
      insertClasses_inValue hfirst (by simp) (standsFirst_nil _), spaced_append hne hhead]
    simp
  | @inValue front tag value hfirst htag hclass =>
    rw [insertClasses_inValue hfirst htag hclass, insertClasses_inValue hfirst htag hclass,
      insertClasses_inValue hfirst htag hclass, spaced_append hne hhead]
    simp

lemma toList_injectClasses {classes : String} (h : classes ≠ "") (markup : String) :
    (injectClasses markup classes).toList = insertClasses classes.toList markup.toList := by
  rw [injectClasses, if_neg h, String.toList_ofList]

/-- Adding classes changes nothing but one place of the open tag of the root, and nothing at all
without classes or a root. Classes that are added one after the other are added as one text. -/
theorem injectClasses_is_insertion (markup : String) :
    (∀ classes : String,
      if classes = "" ∨ ¬rootTag <:+: markup.toList then injectClasses markup classes = markup
      else
        ∃ front tag inserted after,
          markup.toList = front ++ rootTag ++ tag ++ after ∧
          StandsFirst rootTag front ∧
          '>' ∉ tag ∧
          (injectClasses markup classes).toList = front ++ rootTag ++ tag ++ inserted ++ after ∧
          (tag = [] ∧ ¬classOpening <:+: after.takeWhile (· ≠ '>') ∧
              inserted = classOpening ++ classes.toList ++ ['"'] ∨
            classOpening <:+ tag ∧
              inserted = classes.toList ++ if after.head? = some '"' then [] else [' '])) ∧
    ∀ a b : String, a ≠ "" → b ≠ "" → a.toList.head? ≠ some '"' →
      injectClasses (injectClasses markup a) b = injectClasses markup (b ++ " " ++ a) := by
  constructor
  · intro classes
    split
    · rename_i hnothing
      by_cases hclasses : classes = ""
      · rw [injectClasses, if_pos hclasses]
      · rw [← String.toList_inj, toList_injectClasses hclasses,
          insertClasses_of_noRoot (hnothing.resolve_left hclasses)]
    · rename_i hsomething
      obtain ⟨hclasses, hroot⟩ := not_or.mp hsomething
      rw [toList_injectClasses hclasses]
      exact insertClasses_eq_insertion classes.toList (not_not.mp hroot)
  · intro a b ha hb hquote
    have hboth : b ++ " " ++ a ≠ "" := by
      intro hempty
      exact ha (String.append_eq_empty_iff.mp hempty).2
    have hlist : a.toList ≠ [] := fun hempty => ha (String.toList_eq_nil_iff.mp hempty)
    rw [← String.toList_inj, toList_injectClasses hb, toList_injectClasses ha,
      toList_injectClasses hboth, insertClasses_insertClasses hlist hquote]
    simp

theorem injectClasses_is_insertion_icon :
    let markup := "<svg id='a' class=\"icon\"><g class=\"x\"/></svg>"
    "w-4" ≠ "" ∧ "text-ink" ≠ "" ∧ "w-4".toList.head? ≠ some '"' ∧
    injectClasses (injectClasses markup "w-4") "text-ink" =
      injectClasses markup "text-ink w-4" ∧
    injectClasses markup "text-ink w-4" =
      "<svg id='a' class=\"text-ink w-4 icon\"><g class=\"x\"/></svg>" := by
  intro markup
  have hne : "w-4" ≠ "" := by decide
  have hmore : "text-ink" ≠ "" := by decide
  have hquote : "w-4".toList.head? ≠ some '"' := by decide
  exact ⟨hne, hmore, hquote, (injectClasses_is_insertion markup).2 _ _ hne hmore hquote,
    by decide +kernel⟩

end UtilityMarkup.Markup
