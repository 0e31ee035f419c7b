import UtilityMarkup.Markup.Drawing
import UtilityMarkup.Proofs.FirstOccurrence
import UtilityMarkup.Proofs.Reading

/-!
# Open tags

The open tag of the root of a drawing, as the application may write it: attributes with blanks
between them and around their equals signs, and values in either kind of quotes. Such a tag is read
back to its names and values, whatever follows it.
-/

namespace UtilityMarkup.Markup

open Text

/-! ### Written attributes -/

inductive Quotes where
  | single
  | double
deriving DecidableEq, Repr

def Quotes.char : Quotes → Char
  | single => '\''
  | double => '"'

/-- An attribute as it stands in a tag, with the blanks in front of it and around its sign. -/
structure WrittenAttribute where
  gap : List Char
  name : String
  beforeSign : List Char
  afterSign : List Char
  quotes : Quotes
  value : List Char
  gap_ne_nil : gap ≠ []
  blank_gap : ∀ c ∈ gap, isBlank c = true
  isName : IsName name
  blank_beforeSign : ∀ c ∈ beforeSign, isBlank c = true
  blank_afterSign : ∀ c ∈ afterSign, isBlank c = true
  closed : quotes.char ∉ value

namespace WrittenAttribute

/-- What stands behind the gap. -/
def body (attr : WrittenAttribute) : List Char :=
  attr.name.toList ++ (attr.beforeSign ++ '=' :: (attr.afterSign ++
    attr.quotes.char :: (attr.value ++ [attr.quotes.char])))

def text (attr : WrittenAttribute) : List Char :=
  attr.gap ++ attr.body

def read (attr : WrittenAttribute) : String × String :=
  (attr.name, .ofList attr.value)

end WrittenAttribute

/-- What stands in an open tag behind its name. -/
structure OpenTag where
  attributes : List WrittenAttribute
  gap : List Char
  selfClosing : Bool
  distinct : (attributes.map (·.name)).Nodup
  blank_gap : ∀ c ∈ gap, isBlank c = true

namespace OpenTag

def closing (tag : OpenTag) : List Char :=
  tag.gap ++ if tag.selfClosing then ['/', '>'] else ['>']

def text (tag : OpenTag) : List Char :=
  tag.attributes.flatMap (·.text) ++ tag.closing

def read (tag : OpenTag) : List (String × String) :=
  tag.attributes.map (·.read)

end OpenTag

/-! ### Reading a tag -/

/-- The attribute at the front of a text. -/
def readAttribute? (text : List Char) : Option ((String × String) × List Char) :=
  match (readName text).2.dropWhile isBlank with
  | '=' :: rest =>
    match rest.dropWhile isBlank with
    | quote :: quoted =>
      if (readName text).1 ≠ "" ∧ (quote = '"' ∨ quote = '\'') ∧ quote ∈ quoted then
        some (((readName text).1, .ofList (quoted.takeWhile (· ≠ quote))),
          (quoted.dropWhile (· ≠ quote)).tail)
      else none
    | [] => none
  | _ => none

lemma length_lt_of_readAttribute? {text rest : List Char} {attr : String × String}
    (h : readAttribute? text = some (attr, rest)) : rest.length < text.length := by
  unfold readAttribute? at h
  split at h
  · rename_i afterSign hsign
    split at h
    · rename_i quote quoted hquote
      split at h
      · cases h
        have hname := length_readName_le text
        have hbefore := (List.dropWhile_suffix isBlank (l := (readName text).2)).length_le
        have hafter := (List.dropWhile_suffix isBlank (l := afterSign)).length_le
        have hvalue := (List.dropWhile_suffix (· ≠ quote) (l := quoted)).length_le
        rw [hsign, List.length_cons] at hbefore
        rw [hquote, List.length_cons] at hafter
        rw [List.length_tail]
        omega
      · cases h
    · cases h
  · cases h

/-- The attributes up to the end of a tag, each behind at least one blank. -/
def tagAttributes? (text : List Char) : Option (List (String × String)) :=
  let inner := text.dropWhile isBlank
  if inner.head? = some '>' ∨ ['/', '>'] <+: inner then some []
  else if text.head?.any isBlank then
    match _ : readAttribute? inner with
    | some (attr, rest) => (tagAttributes? rest).map (attr :: ·)
    | none => none
  else none
termination_by text.length
decreasing_by
  rename_i hread
  exact Nat.lt_of_lt_of_le (length_lt_of_readAttribute? hread) (List.dropWhile_suffix _).length_le

/-- What follows the `<` of the first element. Comments are passed over, and so are instructions and
declarations. -/
def firstElement? : List Char → Option (List Char)
  | [] => none
  | c :: rest =>
    if c = '<' then
      if "!--".toList <+: rest then
        match _ : splitAt? "-->".toList (rest.drop 3) with
        | some (_, after) => firstElement? after
        | none => none
      else if rest.head? = some '!' ∨ rest.head? = some '?' then firstElement? rest
      else some rest
    else firstElement? rest
termination_by text => text.length
decreasing_by
  · rename_i hsplit
    have htext := congrArg List.length (splitAt?_eq_some_iff.mp hsplit).1
    simp only [List.length_append, List.length_drop, List.length_cons] at htext ⊢
    omega
  · simp
  · simp

def rootAttributes? (markup : List Char) : Option (List (String × String)) :=
  (firstElement? markup).bind fun text => tagAttributes? (readName text).2

/-! ### Written tags are read back -/

lemma dropWhile_isBlank_append {gap : List Char} (hgap : ∀ c ∈ gap, isBlank c = true)
    {rest : List Char} (hrest : ∀ c ∈ rest.head?, isBlank c = false) :
    (gap ++ rest).dropWhile isBlank = rest :=
  (takeWhile_append_of_stop hgap hrest).2

lemma isBlank_of_mem_name {name : String} (hname : IsName name) {c : Char} (hc : c ∈ name.toList) :
    isBlank c = false := by
  have hends := hname.2 c hc
  rw [endsName, Bool.or_eq_false_iff] at hends
  exact hends.1

lemma Quotes.isBlank_char (quotes : Quotes) : isBlank quotes.char = false := by
  cases quotes <;> decide

lemma endsName_head?_sign {gap : List Char} (hgap : ∀ c ∈ gap, isBlank c = true)
    (rest : List Char) : ∀ c ∈ (gap ++ '=' :: rest).head?, endsName c = true := by
  intro c hc
  cases gap with
  | nil =>
    cases hc
    decide
  | cons d gap =>
    rw [List.cons_append, List.head?_cons, Option.mem_some_iff] at hc
    rw [← hc, endsName, hgap d (by simp), Bool.true_or]

namespace WrittenAttribute

lemma readName_body (attr : WrittenAttribute) (rest : List Char) :
    readName (attr.body ++ rest) = (attr.name, attr.beforeSign ++ '=' ::
      (attr.afterSign ++ attr.quotes.char :: (attr.value ++ attr.quotes.char :: rest))) := by
  rw [body, List.append_assoc]
  simp only [List.append_assoc, List.cons_append, List.nil_append]
  exact readName_append attr.isName (endsName_head?_sign attr.blank_beforeSign _)

lemma readAttribute?_body (attr : WrittenAttribute) (rest : List Char) :
    readAttribute? (attr.body ++ rest) = some (attr.read, rest) := by
  have hsign (more : List Char) : (attr.beforeSign ++ '=' :: more).dropWhile isBlank = '=' :: more :=
    dropWhile_isBlank_append attr.blank_beforeSign (by simp; decide)
  have hquote (more : List Char) : (attr.afterSign ++ attr.quotes.char :: more).dropWhile isBlank =
      attr.quotes.char :: more :=
    dropWhile_isBlank_append attr.blank_afterSign (by simp [Quotes.isBlank_char])
  have hquotes : attr.quotes.char = '"' ∨ attr.quotes.char = '\'' := by
    cases attr.quotes <;> simp [Quotes.char]
  have hvalue : ∀ c ∈ attr.value, decide (c ≠ attr.quotes.char) = true :=
    fun c hc => decide_eq_true fun heq => attr.closed (heq ▸ hc)
  have hclosing : ∀ c ∈ (attr.quotes.char :: rest).head?, decide (c ≠ attr.quotes.char) = false := by
    simp
  obtain ⟨htake, hdrop⟩ := takeWhile_append_of_stop hvalue hclosing
  rw [readAttribute?, readName_body]
  simp only [hsign, hquote]
  rw [if_pos ⟨attr.isName.1, hquotes, by simp⟩, htake, hdrop]
  rfl

/-- An attribute ends the name in front of it. -/
lemma endsName_head?_text (attr : WrittenAttribute) (more : List Char) :
    ∀ c ∈ (attr.text ++ more).head?, endsName c = true := by
  intro c hc
  obtain ⟨blank, gap, hgap⟩ := List.exists_cons_of_ne_nil attr.gap_ne_nil
  rw [text, hgap, List.cons_append, List.cons_append, List.head?_cons, Option.mem_some_iff] at hc
  rw [← hc, endsName, attr.blank_gap blank (by simp [hgap]), Bool.true_or]

lemma endsName_head?_flatMap {more : List Char} (hmore : ∀ c ∈ more.head?, endsName c = true)
    (attributes : List WrittenAttribute) :
    ∀ c ∈ (attributes.flatMap (·.text) ++ more).head?, endsName c = true := by
  cases attributes with
  | nil => exact hmore
  | cons attr attributes =>
    rw [List.flatMap_cons, List.append_assoc]
    exact attr.endsName_head?_text _

/-- Nothing of what follows an attribute takes part in reading it. -/
theorem tagAttributes?_text_append (attr : WrittenAttribute) (rest : List Char) :
    tagAttributes? (attr.text ++ rest) = (tagAttributes? rest).map (attr.read :: ·) := by
  have hbody : ∀ c ∈ (attr.body ++ rest).head?, endsName c = false := by
    intro c hc
    have hne : attr.name.toList ≠ [] := by simpa using attr.isName.1
    rw [body, List.append_assoc, List.head?_append_of_ne_nil _ hne] at hc
    exact attr.isName.2 c (List.mem_of_head? hc)
  have hinner : (attr.text ++ rest).dropWhile isBlank = attr.body ++ rest := by
    rw [text, List.append_assoc]
    refine dropWhile_isBlank_append attr.blank_gap fun c hc => ?_
    have hends := hbody c hc
    rw [endsName, Bool.or_eq_false_iff] at hends
    exact hends.1
  have hopen : ¬((attr.body ++ rest).head? = some '>' ∨ ['/', '>'] <+: attr.body ++ rest) := by
    rintro (hclose | ⟨tail, hslash⟩)
    · exact absurd (hbody _ hclose) (by decide)
    · exact absurd (hbody '/' (by rw [← hslash]; rfl)) (by decide)
  have hblank : (attr.text ++ rest).head?.any isBlank = true := by
    obtain ⟨c, gap, hgap⟩ := List.exists_cons_of_ne_nil attr.gap_ne_nil
    rw [text, hgap]
    simpa using attr.blank_gap c (by simp [hgap])
  rw [tagAttributes?]
  simp only [hinner, if_neg hopen, if_pos hblank]
  split
  · rename_i hread
    rw [hinner, readAttribute?_body] at hread
    cases hread
    rfl
  · rename_i hread
    rw [hinner, readAttribute?_body] at hread
    cases hread

lemma tagAttributes?_flatMap_append (attributes : List WrittenAttribute) (rest : List Char) :
    tagAttributes? (attributes.flatMap (·.text) ++ rest) =
      (tagAttributes? rest).map (attributes.map (·.read) ++ ·) := by
  induction attributes with
  | nil => simp
  | cons attr attributes ih =>
    rw [List.flatMap_cons, List.append_assoc, tagAttributes?_text_append, ih, Option.map_map]
    rfl

end WrittenAttribute

namespace OpenTag

lemma endsName_head?_closing (tag : OpenTag) (rest : List Char) :
    ∀ c ∈ (tag.closing ++ rest).head?, endsName c = true := by
  intro c hc
  rw [closing, List.append_assoc] at hc
  cases hgap : tag.gap with
  | nil =>
    rw [hgap] at hc
    cases hself : tag.selfClosing <;> rw [hself] at hc <;> cases hc <;> decide
  | cons blank gap =>
    rw [hgap, List.cons_append, List.head?_cons, Option.mem_some_iff] at hc
    rw [← hc, endsName, tag.blank_gap blank (by simp [hgap]), Bool.true_or]

lemma tagAttributes?_closing_append (tag : OpenTag) (rest : List Char) :
    tagAttributes? (tag.closing ++ rest) = some [] := by
  have hend : ∀ c ∈ ((if tag.selfClosing then ['/', '>'] else ['>']) ++ rest).head?,
      isBlank c = false := by
    cases tag.selfClosing <;> simp <;> decide
  rw [tagAttributes?, closing, List.append_assoc]
  simp only [dropWhile_isBlank_append tag.blank_gap hend]
  rw [if_pos]
  cases tag.selfClosing <;> simp

theorem tagAttributes?_text_append (tag : OpenTag) (rest : List Char) :
    tagAttributes? (tag.text ++ rest) = some tag.read := by
  rw [text, List.append_assoc, WrittenAttribute.tagAttributes?_flatMap_append,
    tagAttributes?_closing_append, Option.map_some, List.append_nil, read]

end OpenTag

/-! ### The root of a drawing -/

lemma prefix_append_angle_iff {pattern before : List Char} (h : '<' ∉ pattern) (after : List Char) :
    pattern <+: before ++ '<' :: after ↔ pattern <+: before := by
  induction pattern generalizing before with
  | nil => simp
  | cons p pattern ih =>
    obtain ⟨hp, hrest⟩ := not_or.mp (List.mem_cons.not.mp h)
    cases before with
    | nil => simp [List.cons_prefix_cons, Ne.symm hp]
    | cons c before => rw [List.cons_append, List.cons_prefix_cons, List.cons_prefix_cons, ih hrest]

lemma firstElement?_comment {body : List Char} (hbody : StandsFirst "-->".toList body)
    (rest : List Char) :
    firstElement? ('<' :: ("!--".toList ++ (body ++ "-->".toList ++ rest))) =
      firstElement? rest := by
  have hend : splitAt? "-->".toList
      (("!--".toList ++ (body ++ "-->".toList ++ rest)).drop 3) = some (body, rest) :=
    splitAt?_eq_some_iff.mpr ⟨rfl, hbody⟩
  rw [firstElement?, if_pos rfl, if_pos (List.prefix_append _ _)]
  split
  · rename_i hsplit
    rw [hend] at hsplit
    cases hsplit
    rfl
  · rename_i hsplit
    rw [hend] at hsplit
    cases hsplit

/-- Changing the first element behind its first character changes nothing about where it starts. -/
lemma firstElement?_frame {markup inner : List Char} (h : firstElement? markup = some inner) :
    ∃ prolog, markup = prolog ++ '<' :: inner ∧ ∀ other, other.head? = inner.head? →
      firstElement? (prolog ++ '<' :: other) = some other := by
  fun_induction firstElement? markup with
  | case1 => cases h
  | case2 rest hcomment body after hsplit ih =>
    obtain ⟨prolog, rfl, hframe⟩ := ih h
    obtain ⟨tail, rfl⟩ := hcomment
    obtain ⟨htail, hfirst⟩ := splitAt?_eq_some_iff.mp hsplit
    refine ⟨'<' :: ("!--".toList ++ (body ++ "-->".toList ++ prolog)), ?_, fun other hother => ?_⟩
    · rw [show tail = _ from htail]
      simp
    · rw [List.cons_append, List.append_assoc, List.append_assoc, firstElement?_comment hfirst,
        hframe other hother]
  | case3 rest hcomment hsplit => cases h
  | case4 rest hcomment haside ih =>
    obtain ⟨prolog, rfl, hframe⟩ := ih h
    refine ⟨'<' :: prolog, rfl, fun other hother => ?_⟩
    have hhead : (prolog ++ '<' :: other).head? = (prolog ++ '<' :: inner).head? := by
      cases prolog <;> rfl
    have hopen : ¬"!--".toList <+: prolog ++ '<' :: other := by
      rw [prefix_append_angle_iff (by decide)] at hcomment ⊢
      exact hcomment
    rw [List.cons_append, firstElement?, if_pos rfl, if_neg hopen, hhead, if_pos haside,
      hframe other hother]
  | case5 rest hcomment haside =>
    cases h
    refine ⟨[], rfl, fun other hother => ?_⟩
    have hopen : ¬"!--".toList <+: other := by
      rintro ⟨tail, rfl⟩
      exact haside (.inl hother.symm)
    rw [List.nil_append, firstElement?, if_pos rfl, if_neg hopen, hother, if_neg haside]
  | case6 c rest hc ih =>
    obtain ⟨prolog, rfl, hframe⟩ := ih h
    refine ⟨c :: prolog, rfl, fun other hother => ?_⟩
    rw [List.cons_append, firstElement?, if_neg hc, hframe other hother]

/-- A text whose first element is a `svg` in standard syntax. -/
structure Drawing where
  prolog : List Char
  root : OpenTag
  rest : List Char
  isRoot : firstElement? (prolog ++ rootTag ++ (root.text ++ rest)) =
    some ("svg".toList ++ (root.text ++ rest))

namespace Drawing

def text (drawing : Drawing) : List Char :=
  drawing.prolog ++ rootTag ++ (drawing.root.text ++ drawing.rest)

/-- Whatever stands in the place of the tag and what follows it, the attributes are read there. -/
lemma rootAttributes?_append (drawing : Drawing) {inner : List Char}
    (hinner : ∀ c ∈ inner.head?, endsName c = true) :
    rootAttributes? (drawing.prolog ++ rootTag ++ inner) = tagAttributes? inner := by
  have hangle (more : List Char) : drawing.prolog ++ rootTag ++ more =
      drawing.prolog ++ '<' :: ("svg".toList ++ more) := by
    rw [List.append_assoc]
    rfl
  obtain ⟨prolog, hprolog, hframe⟩ := firstElement?_frame drawing.isRoot
  rw [hangle, List.append_cancel_right_eq] at hprolog
  have hname : readName ("svg".toList ++ inner) = ("svg", inner) :=
    readName_append (by decide) hinner
  rw [rootAttributes?, hangle, hprolog, hframe ("svg".toList ++ inner) rfl, Option.bind_some, hname]

theorem rootAttributes?_text (drawing : Drawing) :
    rootAttributes? drawing.text = some drawing.root.read := by
  have hhead : ∀ c ∈ (drawing.root.text ++ drawing.rest).head?, endsName c = true := by
    rw [OpenTag.text, List.append_assoc]
    exact WrittenAttribute.endsName_head?_flatMap (drawing.root.endsName_head?_closing _) _
  rw [text, drawing.rootAttributes?_append hhead, OpenTag.tagAttributes?_text_append]

end Drawing

example : rootAttributes? "<!-- <b> --><svg id='a' class = \"icon\"/>".toList =
    some [("id", "a"), ("class", "icon")] := by decide +kernel

end UtilityMarkup.Markup
