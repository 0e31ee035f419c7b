import Mathlib.Data.List.TakeWhile
import UtilityMarkup.Proofs.OpenTags

/-!
# The search for a class attribute

The class attribute of an open tag is searched for as ` class="`, up to the first `>`. So it is found
only if it stands behind a space, in double quotes, without blanks around its sign, and behind no
value with a `>` in it.
-/

namespace UtilityMarkup.Markup

open Text

/-! ### Where a class attribute seems to open -/

/-- No ` class="` starts inside a segment that is followed by this text. -/
def NoneStarts (segment more : List Char) : Prop :=
  ∀ before, before ++ classOpening <+: segment ++ more → segment.length ≤ before.length

lemma NoneStarts.append {segment next more : List Char} (hsegment : NoneStarts segment (next ++ more))
    (hnext : NoneStarts next more) : NoneStarts (segment ++ next) more := by
  intro before hbefore
  rw [List.append_assoc] at hbefore
  have hlength := hsegment before hbefore
  obtain ⟨later, rfl⟩ : segment <+: before :=
    List.prefix_of_prefix_length_le (List.prefix_append _ _)
      ((List.prefix_append _ _).trans hbefore) hlength
  rw [List.append_assoc] at hbefore
  have hlater := hnext later ((List.prefix_append_right_inj segment).mp hbefore)
  rw [List.length_append, List.length_append]
  omega

/-- A class attribute opens with a space, and then goes on with a `c`. -/
lemma exists_of_starts {segment more before : List Char}
    (h : before ++ classOpening <+: segment ++ more) (hlength : before.length < segment.length) :
    ∃ rest, segment = before ++ ' ' :: rest ∧ "class=\"".toList <+: rest ++ more := by
  obtain ⟨rest, rfl⟩ : before <+: segment :=
    List.prefix_of_prefix_length_le ((List.prefix_append _ _).trans h) (List.prefix_append _ _)
      hlength.le
  rw [List.append_assoc, List.prefix_append_right_inj] at h
  cases rest with
  | nil => simp at hlength
  | cons c rest =>
    obtain ⟨rfl, hrest⟩ := List.cons_prefix_cons.mp h
    exact ⟨rest, rfl, hrest⟩

lemma noneStarts_of_not_mem {segment : List Char} (h : ' ' ∉ segment) (more : List Char) :
    NoneStarts segment more := by
  intro before hbefore
  by_contra hlength
  obtain ⟨rest, rfl, -⟩ := exists_of_starts hbefore (by omega)
  exact h (by simp)

lemma NoneStarts.cons {c : Char} {segment more : List Char} (hc : c ≠ ' ')
    (hsegment : NoneStarts segment more) : NoneStarts (c :: segment) more :=
  (noneStarts_of_not_mem (List.mem_singleton.not.mpr hc.symm) _).append hsegment

lemma noneStarts_of_blank {gap more : List Char} (hgap : ∀ c ∈ gap, isBlank c = true)
    (hmore : more.head? ≠ some 'c') : NoneStarts gap more := by
  intro before hbefore
  by_contra hlength
  obtain ⟨rest, rfl, tail, htail⟩ := exists_of_starts hbefore (by omega)
  have hhead : (rest ++ more).head? = some 'c' := by
    rw [← htail]
    rfl
  cases rest with
  | nil => exact hmore hhead
  | cons c rest =>
    cases hhead
    exact absurd (hgap 'c' (by simp)) (by decide)

/-- A value without ` class=` in it cannot open a class attribute by its closing quote. -/
lemma noneStarts_of_quiet {value : List Char} (hvalue : ¬" class=".toList <:+: value)
    (quotes : Quotes) (more : List Char) : NoneStarts value (quotes.char :: more) := by
  intro before hbefore
  by_contra hlength
  obtain ⟨rest, rfl, hrest⟩ := exists_of_starts hbefore (by omega)
  have hopening : "class=".toList <+: rest ++ quotes.char :: more :=
    (List.prefix_append "class=".toList ['"']).trans hrest
  by_cases hinside : "class=".toList.length ≤ rest.length
  · obtain ⟨tail, rfl⟩ :=
      List.prefix_of_prefix_length_le hopening (List.prefix_append _ _) hinside
    exact hvalue ⟨before, tail, by simp⟩
  · obtain ⟨beyond, hbeyond⟩ : rest <+: "class=".toList :=
      List.prefix_of_prefix_length_le (List.prefix_append _ _) hopening (by omega)
    rw [← hbeyond, List.prefix_append_right_inj] at hopening
    cases beyond with
    | nil =>
      rw [← hbeyond, List.append_nil] at hinside
      exact hinside le_rfl
    | cons c beyond =>
      obtain ⟨rfl, -⟩ := List.cons_prefix_cons.mp hopening
      have hmem : quotes.char ∈ "class=".toList := by
        rw [← hbeyond]
        simp
      cases quotes <;> exact absurd hmem (by decide)

namespace WrittenAttribute

/-- Written as ` class="…"`. -/
structure IsPlainClass (attr : WrittenAttribute) : Prop where
  name : attr.name = "class"
  gap : attr.gap.getLast? = some ' '
  beforeSign : attr.beforeSign = []
  afterSign : attr.afterSign = []
  quotes : attr.quotes = .double

lemma noneStarts_body {attr : WrittenAttribute} (hvalue : ¬" class=".toList <:+: attr.value)
    (more : List Char) : NoneStarts attr.body more := by
  have hname : ' ' ∉ attr.name.toList := by
    intro hmem
    exact absurd (isBlank_of_mem_name attr.isName hmem) (by decide)
  have hspace : attr.quotes.char ≠ ' ' := by cases attr.quotes <;> decide
  have hletter : attr.quotes.char ≠ 'c' := by cases attr.quotes <;> decide
  have hclosing : NoneStarts [attr.quotes.char] more := .cons hspace fun _ _ => Nat.zero_le _
  have hquoted : NoneStarts (attr.quotes.char :: (attr.value ++ [attr.quotes.char])) more :=
    .cons hspace ((noneStarts_of_quiet hvalue attr.quotes more).append hclosing)
  have hsign : NoneStarts ('=' :: (attr.afterSign ++
      attr.quotes.char :: (attr.value ++ [attr.quotes.char]))) more :=
    .cons (by decide)
      ((noneStarts_of_blank attr.blank_afterSign (by simpa using hletter)).append hquoted)
  exact (noneStarts_of_not_mem hname _).append
    ((noneStarts_of_blank attr.blank_beforeSign (by simp)).append hsign)

/-- A sign or a quote that follows blanks closely follows none. -/
lemma eq_nil_of_head? {gap more : List Char} {c d : Char} (hgap : ∀ c ∈ gap, isBlank c = true)
    (hd : isBlank d = false) (h : (gap ++ c :: more).head? = some d) : gap = [] ∧ c = d := by
  cases gap with
  | nil => exact ⟨rfl, Option.some.inj h⟩
  | cons blank gap =>
    rw [← Option.some.inj h, hgap _ (by simp)] at hd
    cases hd

lemma isPlainClass_of_body {attr : WrittenAttribute} {more : List Char}
    (hgap : attr.gap.getLast? = some ' ') (h : "class=\"".toList <+: attr.body ++ more) :
    attr.IsPlainClass := by
  obtain ⟨tail, htail⟩ := h
  have hclass : readName ("class=\"".toList ++ tail) = ("class", '=' :: '"' :: tail) := by
    change readName ("class".toList ++ '=' :: '"' :: tail) = _
    exact readName_append (by decide) (by simp; decide)
  rw [htail, readName_body, Prod.mk.injEq] at hclass
  obtain ⟨hname, hrest⟩ := hclass
  obtain ⟨hbefore, -⟩ := eq_nil_of_head? attr.blank_beforeSign (by decide)
    (congrArg List.head? hrest)
  rw [hbefore, List.nil_append, List.cons_inj_right] at hrest
  obtain ⟨hafter, hquote⟩ := eq_nil_of_head? attr.blank_afterSign (by decide)
    (congrArg List.head? hrest)
  refine ⟨hname, hgap, hbefore, hafter, ?_⟩
  cases hquotes : attr.quotes with
  | double => rfl
  | single => exact absurd (hquotes ▸ hquote) (by decide)

/-- A class attribute can only seem to open where a plain one does. -/
lemma isPlainClass_of_starts {attr : WrittenAttribute} {before more : List Char}
    (hvalue : ¬" class=".toList <:+: attr.value)
    (h : before ++ classOpening <+: attr.text ++ more)
    (hlength : before.length < attr.text.length) :
    attr.IsPlainClass ∧ before ++ [' '] = attr.gap := by
  rw [text, List.append_assoc] at h
  by_cases hgap : before.length < attr.gap.length
  · obtain ⟨rest, hsplit, tail, htail⟩ := exists_of_starts h hgap
    have hhead : (rest ++ (attr.body ++ more)).head? = some 'c' := by
      rw [← htail]
      rfl
    cases rest with
    | nil => exact ⟨isPlainClass_of_body (by simp [hsplit]) ⟨tail, htail⟩, hsplit.symm⟩
    | cons c rest =>
      cases hhead
      exact absurd (attr.blank_gap 'c' (by simp [hsplit])) (by decide)
  · obtain ⟨later, rfl⟩ : attr.gap <+: before :=
      List.prefix_of_prefix_length_le (List.prefix_append _ _)
        ((List.prefix_append _ _).trans h) (by omega)
    rw [List.append_assoc] at h
    have hbody := noneStarts_body hvalue more later
      ((List.prefix_append_right_inj attr.gap).mp h)
    rw [text, List.length_append, List.length_append] at hlength
    omega

lemma IsPlainClass.text_eq {attr : WrittenAttribute} (h : attr.IsPlainClass) {gap : List Char}
    (hgap : attr.gap = gap ++ [' ']) :
    attr.text = gap ++ classOpening ++ (attr.value ++ ['"']) := by
  rw [text, body, hgap, h.name, h.beforeSign, h.afterSign, h.quotes, List.append_assoc,
    List.append_assoc]
  rfl

lemma angle_mem_text_iff {attr : WrittenAttribute} : '>' ∈ attr.text ↔ '>' ∈ attr.value := by
  have hblank {gap : List Char} (hgap : ∀ c ∈ gap, isBlank c = true) : '>' ∉ gap :=
    fun hmem => absurd (hgap _ hmem) (by decide)
  have hname : '>' ∉ attr.name.toList := fun hmem => absurd (attr.isName.2 _ hmem) (by decide)
  have hquote : '>' ≠ attr.quotes.char := by cases attr.quotes <;> decide
  simp [text, body, hblank attr.blank_gap, hblank attr.blank_beforeSign,
    hblank attr.blank_afterSign, hname, hquote]

end WrittenAttribute

/-! ### Class attributes that are found -/

namespace OpenTag

/-- The class attribute is plain, and no `>` stands in a value before it. -/
def ReachesClass (tag : OpenTag) : Prop :=
  ∃ front attr back, tag.attributes = front ++ attr :: back ∧ attr.IsPlainClass ∧
    ∀ earlier ∈ front, '>' ∉ earlier.value

/-- No value looks like a class attribute from inside. -/
def IsQuiet (tag : OpenTag) : Prop :=
  ∀ attr ∈ tag.attributes, ¬" class=".toList <:+: attr.value

variable {tag : OpenTag} {rest before : List Char}

lemma noneStarts_closing (tag : OpenTag) (rest : List Char) : NoneStarts tag.closing rest := by
  rw [closing]
  refine (noneStarts_of_blank tag.blank_gap ?_).append (noneStarts_of_not_mem ?_ rest)
  · cases tag.selfClosing <;> simp
  · cases tag.selfClosing <;> decide

/-- What seems to open a class attribute in front of a `>` is a plain class attribute. Induction on
the attributes: the opening starts in the first one, or its front takes up all of it. -/
lemma exists_of_opens {attributes : List WrittenAttribute}
    (hquiet : ∀ attr ∈ attributes, ¬" class=".toList <:+: attr.value) (hangle : '>' ∉ before)
    (h : before ++ classOpening <+: attributes.flatMap (·.text) ++ (tag.closing ++ rest)) :
    ∃ front attr back, attributes = front ++ attr :: back ∧ attr.IsPlainClass ∧
      before ++ [' '] = front.flatMap (·.text) ++ attr.gap := by
  induction attributes generalizing before with
  | nil =>
    have hlength := noneStarts_closing tag rest before h
    have hclosing : tag.closing <+: before :=
      List.prefix_of_prefix_length_le (List.prefix_append _ _)
        ((List.prefix_append _ _).trans h) hlength
    refine absurd (hclosing.subset ?_) hangle
    cases hself : tag.selfClosing <;> simp [closing, hself]
  | cons attr attributes ih =>
    obtain ⟨hvalue, hothers⟩ := List.forall_mem_cons.mp hquiet
    rw [List.flatMap_cons, List.append_assoc] at h
    by_cases hlength : before.length < attr.text.length
    · obtain ⟨hplain, hgap⟩ := WrittenAttribute.isPlainClass_of_starts hvalue h hlength
      exact ⟨[], attr, attributes, rfl, hplain, hgap⟩
    · obtain ⟨later, rfl⟩ : attr.text <+: before :=
        List.prefix_of_prefix_length_le (List.prefix_append _ _)
          ((List.prefix_append _ _).trans h) (by omega)
      rw [List.append_assoc, List.prefix_append_right_inj] at h
      obtain ⟨front, found, back, rfl, hplain, hgap⟩ :=
        ih hothers (fun hmem => hangle (List.mem_append_right _ hmem)) h
      exact ⟨attr :: front, found, back, rfl, hplain, by
        rw [List.append_assoc, hgap, List.flatMap_cons, List.append_assoc]⟩

/-- In a tag that opens no class attribute in front of its first `>`, classes are not found. -/
lemma not_opens_of_not_reachesClass (hquiet : tag.IsQuiet) (hreaches : ¬tag.ReachesClass)
    (rest : List Char) : ¬classOpening <:+: (tag.text ++ rest).takeWhile (· ≠ '>') := by
  rintro ⟨before, after, htake⟩
  have hangle : '>' ∉ before := by
    intro hmem
    have hkept : '>' ∈ (tag.text ++ rest).takeWhile (· ≠ '>') := by
      rw [← htake, List.append_assoc]
      exact List.mem_append_left _ hmem
    simpa using List.mem_takeWhile_imp hkept
  have hopens : before ++ classOpening <+:
      tag.attributes.flatMap (·.text) ++ (tag.closing ++ rest) := by
    rw [← List.append_assoc, ← text]
    exact (htake ▸ List.prefix_append _ _).trans (List.takeWhile_prefix _)
  obtain ⟨front, attr, back, hattributes, hplain, hgap⟩ := exists_of_opens hquiet hangle hopens
  refine hreaches ⟨front, attr, back, hattributes, hplain, fun earlier hearlier hmem => ?_⟩
  have htext : '>' ∈ before ++ [' '] := by
    rw [hgap]
    refine List.mem_append_left _ (List.mem_flatMap.mpr ⟨earlier, hearlier, ?_⟩)
    exact WrittenAttribute.angle_mem_text_iff.mpr hmem
  exact hangle (by simpa using htext)

/-- No other attribute has the name. -/
lemma name_ne_class {front back : List WrittenAttribute} {attr : WrittenAttribute}
    (hattributes : tag.attributes = front ++ attr :: back) (hname : attr.name = "class") :
    ∀ other ∈ front ++ back, other.name ≠ "class" := by
  have hdistinct := tag.distinct
  rw [hattributes, List.map_append, List.map_cons, List.perm_middle.nodup_iff, List.nodup_cons,
    hname, ← List.map_append] at hdistinct
  intro other hother heq
  exact hdistinct.1 (heq ▸ List.mem_map_of_mem hother)

/-- A plain class attribute is the first thing that looks like one. -/
lemma standsFirst_class {front back : List WrittenAttribute} {attr : WrittenAttribute}
    {gap : List Char} (hquiet : tag.IsQuiet) (hattributes : tag.attributes = front ++ attr :: back)
    (hplain : attr.IsPlainClass) (hfront : ∀ earlier ∈ front, '>' ∉ earlier.value)
    (hgap : attr.gap = gap ++ [' ']) :
    '>' ∉ front.flatMap (·.text) ++ gap ∧
      StandsFirst classOpening (front.flatMap (·.text) ++ gap) := by
  have hangle : '>' ∉ front.flatMap (·.text) ++ gap := by
    rw [List.mem_append, List.mem_flatMap, not_or]
    constructor
    · rintro ⟨earlier, hearlier, htext⟩
      exact hfront earlier hearlier (WrittenAttribute.angle_mem_text_iff.mp htext)
    · intro hmem
      exact absurd (attr.blank_gap '>' (by simp [hgap, hmem])) (by decide)
  refine ⟨hangle, fun other hother => ?_⟩
  have hshort : other <+: front.flatMap (·.text) ++ gap :=
    List.prefix_of_prefix_length_le ((List.prefix_append _ _).trans hother)
      (List.prefix_append _ _) (by simpa only [List.length_append, Nat.add_le_add_iff_right]
        using hother.length_le)
  have hopens : other ++ classOpening <+:
      tag.attributes.flatMap (·.text) ++ (tag.closing ++ []) := by
    refine hother.trans ⟨attr.value ++ '"' :: (back.flatMap (·.text) ++ tag.closing), ?_⟩
    simp [hattributes, hplain.text_eq hgap]
  obtain ⟨front', attr', back', hattributes', hplain', hgap'⟩ :=
    exists_of_opens hquiet (fun hmem => hangle (hshort.subset hmem)) hopens
  have hothers := name_ne_class hattributes hplain.name
  obtain ⟨rfl, rfl, -⟩ := (List.append_cons_inj_of_notMem
    (fun hmem => hothers attr' (List.mem_append_left _ hmem) hplain'.name)
    (fun hmem => hothers attr' (List.mem_append_right _ hmem) hplain'.name)).mp
      (hattributes.symm.trans hattributes')
  rw [hgap, ← List.append_assoc] at hgap'
  exact List.append_cancel_right hgap'

end OpenTag

end UtilityMarkup.Markup
