import Mathlib.Data.List.Basic
import UtilityMarkup.Markup.Render
import UtilityMarkup.Text.Blank

/-!
# Reading names and attributes

The parts of a tag, read back from the front of a text. A name goes on until a character that no
name holds, a value until its closing quote, and attributes until the tag closes.
-/

namespace UtilityMarkup.Markup

lemma takeWhile_append_of_stop {p : Char → Bool} {kept rest : List Char}
    (hkept : ∀ c ∈ kept, p c = true) (hstop : ∀ c ∈ rest.head?, p c = false) :
    (kept ++ rest).takeWhile p = kept ∧ (kept ++ rest).dropWhile p = rest := by
  rw [List.takeWhile_append_of_pos hkept, List.dropWhile_append_of_pos hkept]
  cases rest with
  | nil => simp
  | cons c rest => simp [hstop c rfl]

/-! ### Names -/

/-- Blanks, and the characters that stand around names in markup. -/
def endsName (c : Char) : Bool :=
  Text.isBlank c || ['<', '>', '"', '=', '/'].contains c

def IsName (name : String) : Prop :=
  name ≠ "" ∧ ∀ c ∈ name.toList, endsName c = false

-- Only the characters of the name are looked at, not all characters that there are.
instance : DecidablePred IsName := fun name =>
  have : Decidable (∀ c ∈ name.toList, endsName c = false) := List.decidableBAll _ _
  inferInstanceAs (Decidable (_ ∧ _))

def readName (text : List Char) : String × List Char :=
  (.ofList (text.takeWhile (!endsName ·)), text.dropWhile (!endsName ·))

lemma readName_append {name : String} (hname : IsName name) {rest : List Char}
    (hrest : ∀ c ∈ rest.head?, endsName c = true) :
    readName (name.toList ++ rest) = (name, rest) := by
  have hkept : ∀ c ∈ name.toList, (!endsName c) = true := by
    intro c hc
    rw [hname.2 c hc, Bool.not_false]
  have hstop : ∀ c ∈ rest.head?, (!endsName c) = false := by
    intro c hc
    rw [hrest c hc, Bool.not_true]
  obtain ⟨htake, hdrop⟩ := takeWhile_append_of_stop hkept hstop
  rw [readName, htake, hdrop, String.ofList_toList]

lemma head?_ne_of_isName {name : String} (hname : IsName name) {c : Char}
    (hc : endsName c = true) (rest : List Char) : (name.toList ++ rest).head? ≠ some c := by
  have hne : name.toList ≠ [] := by simpa using hname.1
  intro hhead
  rw [List.head?_append_of_ne_nil _ hne] at hhead
  have hkept := hname.2 c (List.mem_of_head? hhead)
  rw [hc] at hkept
  cases hkept

/-! ### Escapes -/

def unescape : List Char → List Char
  | '&' :: 'a' :: 'm' :: 'p' :: ';' :: rest => '&' :: unescape rest
  | '&' :: 'q' :: 'u' :: 'o' :: 't' :: ';' :: rest => '"' :: unescape rest
  | '&' :: 'l' :: 't' :: ';' :: rest => '<' :: unescape rest
  | '&' :: 'g' :: 't' :: ';' :: rest => '>' :: unescape rest
  | c :: rest => c :: unescape rest
  | [] => []

lemma unescape_cons {c : Char} (hc : c ≠ '&') (rest : List Char) :
    unescape (c :: rest) = c :: unescape rest := by
  conv_lhs => unfold unescape
  split <;> simp_all

lemma unescape_escapeTextChar (c : Char) (rest : List Char) :
    unescape (escapeTextChar c ++ rest) = c :: unescape rest := by
  unfold escapeTextChar
  split
  · rfl
  · rfl
  · rfl
  · exact unescape_cons ‹_› rest

lemma unescape_escapeValueChar (c : Char) (rest : List Char) :
    unescape (escapeValueChar c ++ rest) = c :: unescape rest := by
  by_cases hc : c = '"'
  · rw [hc]
    rfl
  · rw [escapeValueChar, if_neg hc, unescape_escapeTextChar]

lemma unescape_flatMap {escapeChar : Char → List Char}
    (h : ∀ c rest, unescape (escapeChar c ++ rest) = c :: unescape rest) (text : List Char) :
    unescape (text.flatMap escapeChar) = text := by
  induction text with
  | nil => rfl
  | cons c text ih => rw [List.flatMap_cons, h, ih]

theorem unescape_escapeText (text : String) : unescape (escapeText text).toList = text.toList := by
  rw [escapeText, String.toList_ofList, unescape_flatMap unescape_escapeTextChar]

theorem unescape_escapeValue (value : String) :
    unescape (escapeValue value).toList = value.toList := by
  rw [escapeValue, String.toList_ofList, unescape_flatMap unescape_escapeValueChar]

lemma not_mem_escapeTextChar (c : Char) : '<' ∉ escapeTextChar c := by
  unfold escapeTextChar
  split
  · decide
  · decide
  · decide
  · simpa using Ne.symm ‹c ≠ '<'›

lemma not_mem_escapeValueChar (c : Char) : '"' ∉ escapeValueChar c := by
  unfold escapeValueChar escapeTextChar
  split
  · decide
  · split
    · decide
    · decide
    · decide
    · simpa using Ne.symm ‹c ≠ '"'›

/-- Escaped text cannot open a tag. -/
theorem ne_of_mem_escapeText {text : String} {c : Char} (hc : c ∈ (escapeText text).toList) :
    c ≠ '<' := by
  rw [escapeText, String.toList_ofList] at hc
  obtain ⟨d, -, hd⟩ := List.mem_flatMap.mp hc
  rintro rfl
  exact not_mem_escapeTextChar d hd

/-- An escaped value cannot close the quotes around it. -/
theorem ne_of_mem_escapeValue {value : String} {c : Char} (hc : c ∈ (escapeValue value).toList) :
    c ≠ '"' := by
  rw [escapeValue, String.toList_ofList] at hc
  obtain ⟨d, -, hd⟩ := List.mem_flatMap.mp hc
  rintro rfl
  exact not_mem_escapeValueChar d hd

/-! ### Attributes -/

/-- A value in quotes, if there is one. -/
def readValue (text : List Char) : AttributeValue × List Char :=
  match text with
  | '=' :: '"' :: quoted =>
    (.text (.ofList (unescape (quoted.takeWhile (· ≠ '"')))), (quoted.dropWhile (· ≠ '"')).tail)
  | _ => (.present, text)

lemma length_readName_le (text : List Char) : (readName text).2.length ≤ text.length :=
  (List.dropWhile_suffix _).length_le

lemma length_readValue_le (text : List Char) : (readValue text).2.length ≤ text.length := by
  unfold readValue
  split
  · rename_i quoted
    have hdrop : (quoted.dropWhile (· ≠ '"')).length ≤ quoted.length :=
      (List.dropWhile_suffix _).length_le
    simp only [List.length_tail, List.length_cons]
    omega
  · exact Nat.le_refl _

/-- Attributes up to the end of the tag, which is left. -/
def readAttributes (text : List Char) : List Attribute × List Char :=
  match text with
  | ' ' :: rest =>
    if rest.head? = some '/' then ([], text)
    else
      let value := readValue (readName rest).2
      let others := readAttributes value.2
      (⟨(readName rest).1, value.1⟩ :: others.1, others.2)
  | _ => ([], text)
termination_by text.length
decreasing_by
  have hname := length_readName_le rest
  have hvalue := length_readValue_le (readName rest).2
  rw [List.length_cons]
  omega

def valueText : AttributeValue → List Char
  | .present => []
  | .text value => '=' :: '"' :: ((escapeValue value).toList ++ ['"'])

lemma toList_render_attribute (attr : Attribute) :
    attr.render.toList = ' ' :: (attr.name.toList ++ valueText attr.value) := by
  obtain ⟨name, value⟩ := attr
  cases value <;> simp [Attribute.render, valueText]

lemma readValue_append (value : AttributeValue) {rest : List Char} (hrest : rest.head? ≠ some '=') :
    readValue (valueText value ++ rest) = (value, rest) := by
  cases value with
  | present =>
    unfold readValue valueText
    split
    · rename_i htext
      rw [List.nil_append] at htext
      exact absurd (congrArg List.head? htext) hrest
    · rfl
  | text value =>
    have hkept : ∀ c ∈ (escapeValue value).toList, decide (c ≠ '"') = true :=
      fun c hc => decide_eq_true (ne_of_mem_escapeValue hc)
    have hstop : ∀ c ∈ ('"' :: rest).head?, decide (c ≠ '"') = false := by simp
    obtain ⟨htake, hdrop⟩ := takeWhile_append_of_stop hkept hstop
    simp only [valueText, readValue, List.cons_append, List.append_assoc, List.nil_append, htake,
      hdrop, unescape_escapeValue, String.ofList_toList, List.tail_cons]

/-- The text goes on with the end of a tag. -/
def EndsTag (text : List Char) : Prop :=
  text.head? = some '>' ∨ [' ', '/'] <+: text

lemma head?_attributes_append (attributes : List Attribute) {rest : List Char}
    (hrest : EndsTag rest) :
    (attributes.flatMap (·.render.toList) ++ rest).head? = some ' ' ∨
      (attributes.flatMap (·.render.toList) ++ rest).head? = some '>' := by
  cases attributes with
  | nil =>
    rcases hrest with hclose | ⟨tail, rfl⟩
    · exact .inr hclose
    · exact .inl rfl
  | cons attr attributes =>
    rw [List.flatMap_cons, toList_render_attribute]
    exact .inl rfl

theorem readAttributes_append {attributes : List Attribute}
    (hnames : ∀ attr ∈ attributes, IsName attr.name) {rest : List Char}
    (hrest : EndsTag rest) :
    readAttributes (attributes.flatMap (·.render.toList) ++ rest) = (attributes, rest) := by
  induction attributes with
  | nil =>
    rw [List.flatMap_nil, List.nil_append]
    rcases hrest with hclose | ⟨tail, rfl⟩
    · cases rest with
      | nil => cases hclose
      | cons c rest =>
        cases hclose
        rw [readAttributes]
        simp
    · change readAttributes (' ' :: '/' :: tail) = _
      rw [readAttributes]
      rfl
  | cons attr attributes ih =>
    obtain ⟨hname, hothers⟩ := List.forall_mem_cons.mp hnames
    have hhead := head?_attributes_append attributes hrest
    generalize hmore : attributes.flatMap (·.render.toList) ++ rest = more at hhead ih
    have hvalue : readValue (valueText attr.value ++ more) = (attr.value, more) := by
      refine readValue_append _ ?_
      rcases hhead with h | h <;> simp [h]
    have hread : readName (attr.name.toList ++ (valueText attr.value ++ more)) =
        (attr.name, valueText attr.value ++ more) := by
      refine readName_append hname ?_
      cases attr.value with
      | present => rcases hhead with h | h <;> simp [valueText, h] <;> decide
      | text value => simp [valueText]; decide
    have hslash := head?_ne_of_isName hname (c := '/') (by decide)
      (valueText attr.value ++ more)
    rw [List.flatMap_cons, toList_render_attribute, List.append_assoc, hmore, List.cons_append,
      List.append_assoc, readAttributes]
    simp only [if_neg hslash, hread, hvalue, ih hothers]

end UtilityMarkup.Markup
