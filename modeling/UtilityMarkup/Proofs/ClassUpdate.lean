import UtilityMarkup.Proofs.ClassInsertion
import UtilityMarkup.Proofs.ClassSearch

/-!
# Updates of the class attribute

Adding classes to a drawing is meant to update the class attribute of its root. A class attribute
that is not found is left alone, and a second one is added. Classes with a double quote in them end
their value early.
-/

namespace UtilityMarkup.Markup

open Text

/-! ### Updates -/

/-- Puts classes in front of those that a class attribute has. -/
def extendClass (classes : String) : String × String → String × String
  | (name, value) =>
    if name = "class" then (name, if value = "" then classes else classes ++ " " ++ value)
    else (name, value)

/-- The attributes with classes added to their class attribute, which comes first if there is none
yet. -/
def withClasses (classes : String) (attributes : List (String × String)) : List (String × String) :=
  if "class" ∈ attributes.map Prod.fst then attributes.map (extendClass classes)
  else ("class", classes) :: attributes

lemma map_extendClass {classes : String} {attributes : List WrittenAttribute}
    (h : ∀ attr ∈ attributes, attr.name ≠ "class") :
    (attributes.map (·.read)).map (extendClass classes) = attributes.map (·.read) := by
  rw [List.map_map]
  exact List.map_congr_left fun attr hattr => if_neg (h attr hattr)

lemma extendClass_read {classes : String} {attr : WrittenAttribute} (h : attr.name = "class") :
    extendClass classes attr.read = ("class", .ofList
      (classes.toList ++ if attr.value = [] then [] else ' ' :: attr.value)) := by
  rw [WrittenAttribute.read, h, extendClass, if_pos rfl, Prod.mk.injEq, and_iff_right rfl,
    ← String.toList_inj]
  by_cases hvalue : attr.value = []
  · simp [hvalue]
  · simp [hvalue]

/-- A value behind classes is set off by a blank, unless it is empty. -/
lemma spaced_of_closed {value : List Char} (h : '"' ∉ value) (more : List Char) :
    spaced (value ++ '"' :: more) = (if value = [] then [] else ' ' :: value) ++ '"' :: more := by
  by_cases hvalue : value = []
  · simp [hvalue, spaced]
  · rw [if_neg hvalue, List.cons_append]
    exact spaced_append hvalue (fun hhead => h (List.mem_of_head? hhead)) _

lemma mem_names_iff {tag : OpenTag} :
    "class" ∈ tag.read.map Prod.fst ↔ ∃ attr ∈ tag.attributes, attr.name = "class" := by
  simp [OpenTag.read, WrittenAttribute.read]

/-- No class attribute of an update is shorter than the classes that are added. -/
lemma length_le_of_mem_withClasses {classes value : String} {attributes : List (String × String)}
    (h : ("class", value) ∈ withClasses classes attributes) : classes.length ≤ value.length := by
  rw [withClasses] at h
  split at h
  · obtain ⟨⟨name, old⟩, -, heq⟩ := List.mem_map.mp h
    rw [extendClass] at heq
    split at heq
    · cases heq
      split
      · exact le_rfl
      · rw [String.length_append, String.length_append]
        omega
    · cases heq
      contradiction
  · rename_i hnone
    rcases List.mem_cons.mp h with heq | hmem
    · rw [(Prod.mk.inj heq).2]
    · exact absurd (List.mem_map_of_mem (f := Prod.fst) hmem) hnone

namespace Drawing

variable {drawing : Drawing} {gap value : List Char}

/-- A class attribute in the tag is read up to its closing quote. -/
lemma rootAttributes?_class (drawing : Drawing) (front : List WrittenAttribute)
    (hgap : ∀ c ∈ gap, isBlank c = true) (hvalue : '"' ∉ value) (more : List Char) :
    rootAttributes? (drawing.prolog ++ rootTag ++
        (front.flatMap (·.text) ++ gap ++ classOpening ++ (value ++ '"' :: more))) =
      (tagAttributes? more).map (front.map (·.read) ++ ("class", .ofList value) :: ·) := by
  let attr : WrittenAttribute :=
    { gap := gap ++ [' ']
      name := "class"
      beforeSign := []
      afterSign := []
      quotes := .double
      value
      gap_ne_nil := by simp
      blank_gap := List.forall_mem_append.mpr ⟨hgap, by simp; decide⟩
      isName := by decide
      blank_beforeSign := by simp
      blank_afterSign := by simp
      closed := hvalue }
  have hplain : attr.IsPlainClass := ⟨rfl, by simp [attr], rfl, rfl, rfl⟩
  have htext : front.flatMap (·.text) ++ gap ++ classOpening ++ (value ++ '"' :: more) =
      front.flatMap (·.text) ++ (attr.text ++ more) := by
    rw [hplain.text_eq rfl]
    simp [attr]
  rw [htext, drawing.rootAttributes?_append
      (WrittenAttribute.endsName_head?_flatMap (attr.endsName_head?_text more) front),
    WrittenAttribute.tagAttributes?_flatMap_append, attr.tagAttributes?_text_append, Option.map_map]
  rfl

end Drawing

/-- Where the classes that are added to a drawing are read back: the attributes in front of them,
what follows them in their value, and the attributes behind. -/
structure ClassSlot (drawing : Drawing) where
  front : List WrittenAttribute
  gap : List Char
  value : List Char
  more : List Char
  others : List (String × String)
  blank_gap : ∀ c ∈ gap, isBlank c = true
  closed : '"' ∉ value
  others_read : tagAttributes? more = some others
  inserted : ∀ classes, insertClasses classes drawing.text = drawing.prolog ++ rootTag ++
    (front.flatMap (·.text) ++ gap ++ classOpening ++ (classes ++ value ++ '"' :: more))

namespace ClassSlot

variable {drawing : Drawing} {classes : List Char}

def read (slot : ClassSlot drawing) (classes : List Char) : List (String × String) :=
  slot.front.map (·.read) ++ ("class", .ofList (classes ++ slot.value)) :: slot.others

lemma rootAttributes?_insertClasses (slot : ClassSlot drawing) (h : '"' ∉ classes) :
    rootAttributes? (insertClasses classes drawing.text) = some (slot.read classes) := by
  have hvalue : '"' ∉ classes ++ slot.value := by
    rw [List.mem_append, not_or]
    exact ⟨h, slot.closed⟩
  rw [slot.inserted, drawing.rootAttributes?_class slot.front slot.blank_gap hvalue,
    slot.others_read]
  rfl

/-- A quote among the classes ends their value, and what follows it is read as attributes. -/
lemma exists_shorter (slot : ClassSlot drawing) (h : '"' ∈ classes)
    {attributes : List (String × String)}
    (hread : rootAttributes? (insertClasses classes drawing.text) = some attributes) :
    ∃ value, ("class", String.ofList value) ∈ attributes ∧ value.length < classes.length := by
  obtain ⟨value, spilled, rfl, hvalue⟩ := List.eq_append_cons_of_mem h
  have hspill : value ++ '"' :: spilled ++ slot.value ++ '"' :: slot.more =
      value ++ '"' :: (spilled ++ slot.value ++ '"' :: slot.more) := by simp
  rw [slot.inserted, hspill, drawing.rootAttributes?_class slot.front slot.blank_gap hvalue,
    Option.map_eq_some_iff] at hread
  obtain ⟨others, -, rfl⟩ := hread
  exact ⟨value, by simp, by simp⟩

lemma quote_not_mem (slot : ClassSlot drawing) {classes : String}
    {attributes : List (String × String)}
    (hread : rootAttributes? (insertClasses classes.toList drawing.text) =
      some (withClasses classes attributes)) : '"' ∉ classes.toList := by
  intro hquote
  obtain ⟨value, hvalue, hshorter⟩ := slot.exists_shorter hquote hread
  have hlength := length_le_of_mem_withClasses hvalue
  rw [String.length_ofList, ← String.length_toList] at hlength
  omega

end ClassSlot

namespace Drawing

variable {drawing : Drawing}

lemma exists_slot_of_reachesClass (hfirst : StandsFirst rootTag drawing.prolog)
    (hquiet : drawing.root.IsQuiet) (hreaches : drawing.root.ReachesClass) :
    ∃ slot : ClassSlot drawing, ∀ classes : String,
      slot.read classes.toList = drawing.root.read.map (extendClass classes) := by
  obtain ⟨front, attr, back, hattributes, hplain, hfront⟩ := hreaches
  obtain ⟨gap, hgap⟩ := List.getLast?_eq_some_iff.mp hplain.gap
  obtain ⟨hangle, hclass⟩ := OpenTag.standsFirst_class hquiet hattributes hplain hfront hgap
  have hclosed : '"' ∉ attr.value := by
    have hquote := attr.closed
    rwa [hplain.quotes] at hquote
  let more := back.flatMap (·.text) ++ (drawing.root.closing ++ drawing.rest)
  have htext : drawing.text = drawing.prolog ++ rootTag ++
      (front.flatMap (·.text) ++ gap ++ classOpening ++ (attr.value ++ '"' :: more)) := by
    simp [text, OpenTag.text, hattributes, hplain.text_eq hgap, more]
  refine ⟨⟨front, gap, if attr.value = [] then [] else ' ' :: attr.value, more, back.map (·.read),
    ?_, ?_, ?_, fun classes => ?_⟩, fun classes => ?_⟩
  · intro c hc
    exact attr.blank_gap c (by simp [hgap, hc])
  · split
    · simp
    · simpa using hclosed
  · rw [WrittenAttribute.tagAttributes?_flatMap_append, OpenTag.tagAttributes?_closing_append,
      Option.map_some, List.append_nil]
  · rw [htext, insertClasses_inValue hfirst hangle hclass, spaced_of_closed hclosed,
      List.append_assoc classes]
  · have hothers := OpenTag.name_ne_class hattributes hplain.name
    rw [List.forall_mem_append] at hothers
    rw [ClassSlot.read, OpenTag.read, hattributes, List.map_append, List.map_append, List.map_cons,
      List.map_cons, map_extendClass hothers.1, map_extendClass hothers.2,
      extendClass_read hplain.name]

lemma exists_slot_of_not_reachesClass (hfirst : StandsFirst rootTag drawing.prolog)
    (hquiet : drawing.root.IsQuiet) (hreaches : ¬drawing.root.ReachesClass) :
    ∃ slot : ClassSlot drawing, ∀ classes : String,
      slot.read classes.toList = ("class", classes) :: drawing.root.read := by
  refine ⟨⟨[], [], [], drawing.root.text ++ drawing.rest, drawing.root.read, by simp, by simp,
    OpenTag.tagAttributes?_text_append _ _, fun classes => ?_⟩, fun classes => ?_⟩
  · rw [text, insertClasses_behindName hfirst
      (OpenTag.not_opens_of_not_reachesClass hquiet hreaches drawing.rest)]
    simp
  · simp [ClassSlot.read]

/-- The attributes of the root after classes are added. The update is the one that was meant if the
classes have no quote in them, and the class attribute is one that is found. Any other class
attribute stays as it is, behind a second one. -/
theorem rootAttributes?_injectClasses (drawing : Drawing) {classes : String}
    (hclasses : classes ≠ "") (hfirst : StandsFirst rootTag drawing.prolog)
    (hquiet : drawing.root.IsQuiet) :
    let old := drawing.root.read
    let new := rootAttributes? (injectClasses (.ofList drawing.text) classes).toList
    ('"' ∉ classes.toList →
      (drawing.root.ReachesClass → new = some (old.map (extendClass classes))) ∧
      (¬drawing.root.ReachesClass → new = some (("class", classes) :: old))) ∧
    (new = some (withClasses classes old) ↔
      '"' ∉ classes.toList ∧ ("class" ∈ old.map Prod.fst → drawing.root.ReachesClass)) := by
  intro old new
  have hnew : new = rootAttributes? (insertClasses classes.toList drawing.text) :=
    congrArg rootAttributes? (by rw [toList_injectClasses hclasses, String.toList_ofList])
  -- In both cases the slot says what is read, and that a quote among the classes breaks the update.
  by_cases hreaches : drawing.root.ReachesClass
  · obtain ⟨slot, hslot⟩ := exists_slot_of_reachesClass hfirst hquiet hreaches
    have hread : '"' ∉ classes.toList → new = some (old.map (extendClass classes)) := by
      intro hquote
      rw [hnew, slot.rootAttributes?_insertClasses hquote, hslot]
    have hmeant : withClasses classes old = old.map (extendClass classes) := by
      obtain ⟨front, attr, back, hattributes, hplain, -⟩ := hreaches
      exact if_pos (mem_names_iff.mpr ⟨attr, by simp [hattributes], hplain.name⟩)
    refine ⟨fun hquote => ⟨fun _ => hread hquote, fun h => absurd hreaches h⟩, ?_⟩
    constructor
    · exact fun hupdate => ⟨slot.quote_not_mem (hnew ▸ hupdate), fun _ => hreaches⟩
    · rintro ⟨hquote, -⟩
      rw [hmeant, hread hquote]
  · obtain ⟨slot, hslot⟩ := exists_slot_of_not_reachesClass hfirst hquiet hreaches
    have hread : '"' ∉ classes.toList → new = some (("class", classes) :: old) := by
      intro hquote
      rw [hnew, slot.rootAttributes?_insertClasses hquote, hslot]
    refine ⟨fun hquote => ⟨fun h => absurd h hreaches, fun _ => hread hquote⟩, ?_⟩
    constructor
    · intro hupdate
      have hquote := slot.quote_not_mem (hnew ▸ hupdate)
      refine ⟨hquote, fun hmem => ?_⟩
      -- The update that was meant has as many attributes as before, the one that was made one more.
      rw [hread hquote, withClasses, if_pos hmem, Option.some.injEq] at hupdate
      simpa using congrArg List.length hupdate
    · rintro ⟨hquote, hfound⟩
      rw [hread hquote, withClasses, if_neg fun hmem => hreaches (hfound hmem)]

end Drawing

/-! ### Two drawings -/

/-- An attribute behind one space, without blanks around its sign. -/
def WrittenAttribute.tight (quotes : Quotes) (name value : String) (isName : IsName name)
    (closed : quotes.char ∉ value.toList) : WrittenAttribute where
  gap := [' ']
  name
  beforeSign := []
  afterSign := []
  quotes
  value := value.toList
  gap_ne_nil := by decide
  blank_gap := by simp; decide
  isName
  blank_beforeSign := by simp
  blank_afterSign := by simp
  closed

def iconDrawing : Drawing where
  prolog := "<?xml version='1.0'?><!-- <g> -->".toList
  root :=
    { attributes :=
        [.tight .single "width" "24" (by decide) (by decide),
          .tight .double "class" "icon" (by decide) (by decide),
          .tight .single "data-title" "a>b" (by decide) (by decide)]
      gap := []
      selfClosing := false
      distinct := by decide
      blank_gap := by simp }
  rest := "<g/></svg>".toList
  isRoot := by decide +kernel

theorem Drawing.rootAttributes?_injectClasses_icon :
    "w-4" ≠ "" ∧ StandsFirst rootTag iconDrawing.prolog ∧ iconDrawing.root.IsQuiet ∧
    iconDrawing.root.ReachesClass ∧
    rootAttributes? (injectClasses (.ofList iconDrawing.text) "w-4").toList =
      some [("width", "24"), ("class", "w-4 icon"), ("data-title", "a>b")] := by
  have hclasses : "w-4" ≠ "" := by decide
  have hfirst : StandsFirst rootTag iconDrawing.prolog := by
    have hsplit : splitAt? rootTag (iconDrawing.prolog ++ rootTag ++ []) =
        some (iconDrawing.prolog, []) := by decide +kernel
    exact (splitAt?_eq_some_iff.mp hsplit).2
  have hquiet : iconDrawing.root.IsQuiet := by
    unfold OpenTag.IsQuiet
    decide +kernel
  have hreaches : iconDrawing.root.ReachesClass :=
    ⟨iconDrawing.root.attributes.take 1, _, _, rfl, ⟨rfl, rfl, rfl, rfl, rfl⟩, by decide⟩
  have hupdate := (rootAttributes?_injectClasses iconDrawing hclasses hfirst hquiet).1
    (by decide)
  exact ⟨hclasses, hfirst, hquiet, hreaches, (hupdate.1 hreaches).trans (by decide +kernel)⟩

def quotedDrawing : Drawing where
  prolog := []
  root :=
    { attributes := [.tight .single "class" "icon" (by decide) (by decide)]
      gap := []
      selfClosing := true
      distinct := by decide
      blank_gap := by simp }
  rest := []
  isRoot := by decide +kernel

/-- In single quotes the class attribute is not found, and a second one is added. A quote among the
classes adds an attribute. -/
theorem quotedDrawing_doubled :
    String.ofList quotedDrawing.text = "<svg class='icon'/>" ∧
    injectClasses "<svg class='icon'/>" "w-4" = "<svg class=\"w-4\" class='icon'/>" ∧
    rootAttributes? "<svg class=\"w-4\" class='icon'/>".toList =
      some [("class", "w-4"), ("class", "icon")] ∧
    withClasses "w-4" quotedDrawing.root.read = [("class", "w-4 icon")] ∧
    rootAttributes? (injectClasses "<svg/>" "x\" onload=\"y").toList =
      some [("class", "x"), ("onload", "y")] ∧
    ¬∀ (drawing : Drawing) (classes : String), classes ≠ "" →
      rootAttributes? (injectClasses (.ofList drawing.text) classes).toList =
        some (withClasses classes drawing.root.read) := by
  refine ⟨by decide +kernel, by decide +kernel, by decide +kernel, by decide +kernel,
    by decide +kernel, fun hall => ?_⟩
  have hdoubled : rootAttributes? (injectClasses (.ofList quotedDrawing.text) "w-4").toList ≠
      some (withClasses "w-4" quotedDrawing.root.read) := by decide +kernel
  exact hdoubled (hall quotedDrawing "w-4" (by decide))

end UtilityMarkup.Markup
