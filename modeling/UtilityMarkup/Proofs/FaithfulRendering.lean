import UtilityMarkup.Proofs.NormalForms

/-!
# Faithful rendering

Plain fragments hold no raw markup, and their names hold nothing that could be taken for markup. The
text that such a fragment is written as can be read back to its normal form, so that no text, value
or class can pass for other markup.
-/

namespace UtilityMarkup

namespace Fragment

/-- There is no raw markup, and all names can be told from the markup around them. -/
inductive IsPlain : Fragment → Prop
  | element {head : Element} {nested : List Fragment} {assets : Assets}
      (htag : Markup.IsName head.tag)
      (hattributes : ∀ attr ∈ head.attributes, Markup.IsName attr.name)
      (hnested : ∀ inner ∈ nested, IsPlain inner) : IsPlain (.element head nested assets)

/-! ### Lines -/

/-- Texts with the end of a line behind each of them. -/
def lines (texts : List String) : List Char :=
  texts.flatMap fun text => text.toList ++ ['\n']

lemma toList_intercalate_newline {texts : List String} (h : texts ≠ []) :
    ("\n".intercalate texts).toList ++ ['\n'] = lines texts := by
  induction texts with
  | nil => exact absurd rfl h
  | cons text texts ih =>
    cases texts with
    | nil => simp [lines]
    | cons next texts =>
      rw [String.intercalate_cons_cons, String.toList_append, String.toList_append,
        List.append_assoc, ih (by simp)]
      simp [lines]

lemma toList_body (sections : List String) :
    (Element.body sections).toList = if sections = [] then [] else '\n' :: lines sections := by
  by_cases h : sections = []
  · simp [Element.body, h]
  · rw [Element.body, if_neg h, if_neg h, ← toList_intercalate_newline h]
    simp

lemma lines_nestedSection (nested : List Fragment) :
    lines (nestedSection nested) = lines (nested.map (render "")) := by
  by_cases h : nested = []
  · rw [nestedSection, if_pos h, h, List.map_nil]
  · have hrendered : nested.map (render "") ≠ [] := by simpa using h
    rw [nestedSection, if_neg h, ← toList_intercalate_newline hrendered]
    simp only [lines, List.flatMap_singleton]

/-- What stands between the tag of an element and the next one. -/
def gap (head : Element) (nested : List Fragment) : List Char :=
  if head.contentSection ++ nestedSection nested = [] then []
  else '\n' :: lines head.contentSection

lemma toList_body_sections (head : Element) (nested : List Fragment) :
    (Element.body (head.contentSection ++ nestedSection nested)).toList =
      gap head nested ++ lines (nested.map (render "")) := by
  rw [toList_body, gap, ← lines_nestedSection]
  by_cases h : head.contentSection ++ nestedSection nested = []
  · have hnested := (List.append_eq_nil_iff.mp h).2
    simp [hnested, lines]
  · rw [if_neg h, if_neg h, lines, List.flatMap_append]
    rfl

lemma contentSection_eq (head : Element) :
    head.contentSection = [] ∧ head.content?.filter (· ≠ "") = none ∨
      ∃ content, content ≠ "" ∧ head.contentSection = [Markup.escapeText content] ∧
        head.content?.filter (· ≠ "") = some content := by
  rw [Element.contentSection]
  cases hshown : head.content?.filter (· ≠ "") with
  | none => exact .inl ⟨rfl, rfl⟩
  | some content =>
    have hne : content ≠ "" := by simpa using (Option.filter_eq_some_iff.mp hshown).2
    exact .inr ⟨content, hne, rfl, rfl⟩

lemma ne_of_mem_gap {head : Element} {nested : List Fragment} {c : Char}
    (hc : c ∈ gap head nested) : c ≠ '<' := by
  rw [gap] at hc
  split at hc
  · cases hc
  · rcases List.mem_cons.mp hc with rfl | hline
    · decide
    · rcases contentSection_eq head with ⟨hnone, -⟩ | ⟨content, -, hsome, -⟩
      · simp [hnone, lines] at hline
      · rw [hsome, lines, List.flatMap_singleton, List.mem_append, List.mem_singleton] at hline
        rcases hline with htext | rfl
        · exact Markup.ne_of_mem_escapeText htext
        · decide

end Fragment

/-! ### Reading elements -/

namespace Markup

lemma dropPrefix?_append (pattern rest : List Char) :
    (pattern ++ rest).dropPrefix? pattern = some rest :=
  List.dropPrefix?_eq_some_iff.mpr ⟨pattern, rfl, by simp⟩

/-- The content of an element, from all that stands in front of the next tag. -/
def readContent : List Char → Option String
  | '\n' :: c :: rest => some (.ofList (unescape (c :: rest).dropLast))
  | _ => none

mutual

def readElement : Nat → List Char → Option (Fragment × List Char)
  | 0, _ => none
  | steps + 1, text => do
    let text ← text.dropPrefix? ['<']
    let (tag, text) := readName text
    let (attributes, text) := readAttributes text
    if Element.voidTags.contains tag then
      let text ← text.dropPrefix? [' ', '/', '>']
      return (.element { tag := tag, attributes := attributes } [] {}, text)
    else
      let text ← text.dropPrefix? ['>']
      let content? := readContent (text.takeWhile (· ≠ '<'))
      let (nested, text) ← readNested steps (text.dropWhile (· ≠ '<'))
      let text ← text.dropPrefix? ("</" ++ tag ++ ">").toList
      return (.element { tag := tag, attributes := attributes, content? := content? } nested {},
        text)

/-- Reads elements up to the closing tag of the one around them. -/
def readNested : Nat → List Char → Option (List Fragment × List Char)
  | 0, _ => none
  | steps + 1, text =>
    if ['<', '/'] <+: text then some ([], text)
    else do
      let (first, text) ← readElement steps text
      let text ← text.dropPrefix? ['\n']
      let (others, text) ← readNested steps text
      return (first :: others, text)

end

-- Each step inwards or onwards is paid for by a character, so their number is steps enough.
def read? (markup : String) : Option Fragment :=
  match readElement markup.toList.length markup.toList with
  | some (fragment, []) => some fragment
  | _ => none

open Fragment

lemma readContent_gap (head : Element) (nested : List Fragment) :
    readContent (gap head nested) = head.content?.filter (· ≠ "") := by
  rcases contentSection_eq head with ⟨hsection, hnone⟩ | ⟨content, hne, hsection, hsome⟩
  · rw [gap, hsection, hnone]
    split <;> rfl
  · obtain ⟨c, rest, htext⟩ : ∃ c rest, (escapeText content).toList = c :: rest := by
      refine List.exists_cons_of_ne_nil ?_
      simpa [escapeText_eq_empty_iff] using hne
    have hgap : gap head nested = '\n' :: c :: (rest ++ ['\n']) := by
      rw [gap, hsection, if_neg (by simp), lines, List.flatMap_singleton, htext]
      rfl
    have hcontent : (c :: (rest ++ ['\n'])).dropLast = (escapeText content).toList := by
      rw [← List.cons_append, List.dropLast_concat, htext]
    rw [hgap, readContent, hcontent, unescape_escapeText, String.ofList_toList, hsome]

lemma toList_opening (head : Element) : head.opening.toList =
    '<' :: (head.tag.toList ++ head.allAttributes.flatMap (·.render.toList)) := by
  simp [Element.opening, List.flatMap_map]

lemma isName_of_mem_allAttributes {head : Element}
    (hattributes : ∀ attr ∈ head.attributes, IsName attr.name) :
    ∀ attr ∈ head.allAttributes, IsName attr.name := by
  intro attr hattr
  rw [Element.allAttributes] at hattr
  rcases List.mem_append.mp hattr with howned | hclass
  · exact hattributes attr howned
  · split at hclass
    · cases hclass
    · rw [List.mem_singleton] at hclass
      rw [hclass]
      exact (by decide : IsName "class")

lemma readTag {head : Element} (htag : IsName head.tag)
    (hattributes : ∀ attr ∈ head.attributes, IsName attr.name) {rest : List Char}
    (hrest : EndsTag rest) :
    readName (head.tag.toList ++ (head.allAttributes.flatMap (·.render.toList) ++ rest)) =
        (head.tag, head.allAttributes.flatMap (·.render.toList) ++ rest) ∧
      readAttributes (head.allAttributes.flatMap (·.render.toList) ++ rest) =
        (head.allAttributes, rest) := by
  refine ⟨readName_append htag ?_, readAttributes_append (isName_of_mem_allAttributes hattributes)
    hrest⟩
  intro c hc
  rcases head?_attributes_append head.allAttributes hrest with h | h <;>
    · rw [Option.mem_def.mp hc] at h
      cases h
      decide

/-- Enough steps read the fragment back, whatever follows. -/
def ReadsBack (fragment : Fragment) : Prop :=
  ∀ steps rest, (fragment.render "").toList.length ≤ steps →
    readElement steps ((fragment.render "").toList ++ rest) = some (fragment.normal, rest)

lemma toList_render_isVoid {head : Element} (hvoid : head.isVoid = true) (nested : List Fragment)
    (assets : Assets) (rest : List Char) :
    ((element head nested assets).render "").toList ++ rest =
      ['<'] ++ (head.tag.toList ++ (head.allAttributes.flatMap (·.render.toList) ++
        ([' ', '/', '>'] ++ rest))) := by
  rw [render_element, Element.render_of_isVoid hvoid, String.toList_append, toList_opening]
  simp

lemma toList_render_not_isVoid {head : Element} (hvoid : head.isVoid = false)
    (nested : List Fragment) (assets : Assets) (rest : List Char) :
    ((element head nested assets).render "").toList ++ rest =
      ['<'] ++ (head.tag.toList ++ (head.allAttributes.flatMap (·.render.toList) ++
        (['>'] ++ (gap head nested ++ (lines (nested.map (render "")) ++
          (head.closing.toList ++ rest)))))) := by
  rw [render_element, Element.render_of_not_isVoid hvoid, if_pos rfl, List.append_nil]
  simp only [String.toList_append, toList_opening, toList_body_sections]
  simp

lemma readsBack_of_isVoid {head : Element} (htag : IsName head.tag)
    (hattributes : ∀ attr ∈ head.attributes, IsName attr.name) (hvoid : head.isVoid = true)
    (nested : List Fragment) (assets : Assets) : ReadsBack (.element head nested assets) := by
  intro steps rest hsteps
  have hlength := congrArg List.length (toList_render_isVoid hvoid nested assets [])
  simp only [List.length_append, List.length_cons] at hlength
  obtain ⟨fewer, rfl⟩ := Nat.exists_eq_succ_of_ne_zero (show steps ≠ 0 by omega)
  have hends : EndsTag ([' ', '/', '>'] ++ rest) := .inr ⟨'>' :: rest, rfl⟩
  obtain ⟨hname, hread⟩ := readTag htag hattributes hends
  have hcontains : Element.voidTags.contains head.tag = true := hvoid
  have hshown : head.shown = { tag := head.tag, attributes := head.allAttributes } := by
    rw [Element.shown, if_pos hvoid]
  rw [toList_render_isVoid hvoid, readElement, normal_of_isVoid hvoid, hshown]
  simp only [dropPrefix?_append, Option.bind_eq_bind, Option.bind_some, hname, hread, hcontains,
    if_true]
  rfl

lemma exists_toList_render {fragment : Fragment} (h : fragment.IsPlain) (rest : List Char) :
    ∃ name more, IsName name ∧
      (fragment.render "").toList ++ rest = '<' :: (name.toList ++ more) := by
  cases h with
  | @element head nested assets htag _ _ =>
    cases hvoid : head.isVoid with
    | true => exact ⟨head.tag, _, htag, toList_render_isVoid hvoid nested assets rest⟩
    | false => exact ⟨head.tag, _, htag, toList_render_not_isVoid hvoid nested assets rest⟩

lemma head?_lines_append {nested : List Fragment} (hplain : ∀ inner ∈ nested, inner.IsPlain)
    {rest : List Char} (hrest : ['<', '/'] <+: rest) :
    (lines (nested.map (render "")) ++ rest).head? = some '<' := by
  cases nested with
  | nil =>
    obtain ⟨tail, rfl⟩ := hrest
    rfl
  | cons first others =>
    obtain ⟨name, more, -, htext⟩ := exists_toList_render (hplain first (by simp))
      (['\n'] ++ (lines (others.map (render "")) ++ rest))
    have hfirst : lines ((first :: others).map (render "")) ++ rest =
        (first.render "").toList ++ (['\n'] ++ (lines (others.map (render "")) ++ rest)) := by
      simp [lines]
    rw [hfirst, htext]
    rfl

lemma readNested_lines {nested : List Fragment} (hplain : ∀ inner ∈ nested, inner.IsPlain)
    (hreads : ∀ inner ∈ nested, ReadsBack inner) {rest : List Char} (hrest : ['<', '/'] <+: rest)
    {steps : Nat} (hsteps : (lines (nested.map (render ""))).length < steps) :
    readNested steps (lines (nested.map (render "")) ++ rest) = some (nested.map normal, rest) := by
  induction nested generalizing steps with
  | nil =>
    obtain ⟨fewer, rfl⟩ := Nat.exists_eq_succ_of_ne_zero (Nat.ne_zero_of_lt hsteps)
    rw [List.map_nil, List.map_nil, readNested]
    exact if_pos hrest
  | cons first others ih =>
    obtain ⟨hplainFirst, hplainOthers⟩ := List.forall_mem_cons.mp hplain
    obtain ⟨hreadFirst, hreadOthers⟩ := List.forall_mem_cons.mp hreads
    obtain ⟨fewer, rfl⟩ := Nat.exists_eq_succ_of_ne_zero (Nat.ne_zero_of_lt hsteps)
    have hlength : (lines ((first :: others).map (render ""))).length =
        (first.render "").toList.length + (lines (others.map (render ""))).length + 1 := by
      simp only [lines, List.map_cons, List.flatMap_cons, List.length_append, List.length_singleton]
      omega
    have hfirst := hreadFirst fewer (['\n'] ++ (lines (others.map (render "")) ++ rest)) (by omega)
    have hothers := ih hplainOthers hreadOthers (show _ < fewer by omega)
    have htext : lines ((first :: others).map (render "")) ++ rest =
        (first.render "").toList ++ (['\n'] ++ (lines (others.map (render "")) ++ rest)) := by
      simp [lines]
    -- A name never starts with a slash, so this is not the closing tag yet.
    have hopen : ¬['<', '/'] <+: lines ((first :: others).map (render "")) ++ rest := by
      obtain ⟨name, more, hname, hstart⟩ := exists_toList_render hplainFirst
        (['\n'] ++ (lines (others.map (render "")) ++ rest))
      rw [htext, hstart, List.cons_prefix_cons]
      rintro ⟨-, tail, htail⟩
      refine head?_ne_of_isName hname (c := '/') (by decide) more ?_
      rw [← htail]
      rfl
    rw [readNested, if_neg hopen, htext]
    simp only [hfirst, hothers, dropPrefix?_append, Option.bind_eq_bind, Option.bind_some]
    rfl

lemma readsBack_of_not_isVoid {head : Element} {nested : List Fragment} (htag : IsName head.tag)
    (hattributes : ∀ attr ∈ head.attributes, IsName attr.name) (hvoid : head.isVoid = false)
    (hplain : ∀ inner ∈ nested, inner.IsPlain) (hreads : ∀ inner ∈ nested, ReadsBack inner)
    (assets : Assets) : ReadsBack (.element head nested assets) := by
  intro steps rest hsteps
  have hlength := congrArg List.length (toList_render_not_isVoid hvoid nested assets [])
  simp only [List.length_append, List.length_cons] at hlength
  obtain ⟨fewer, rfl⟩ := Nat.exists_eq_succ_of_ne_zero (show steps ≠ 0 by omega)
  have hends : EndsTag (['>'] ++ (gap head nested ++ (lines (nested.map (render "")) ++
      (head.closing.toList ++ rest)))) := .inl rfl
  obtain ⟨hname, hread⟩ := readTag htag hattributes hends
  have hcontains : Element.voidTags.contains head.tag = false := hvoid
  have hshown : head.shown = { tag := head.tag, attributes := head.allAttributes,
                               content? := head.content?.filter (· ≠ "") } := by
    rw [Element.shown, if_neg (by simp [hvoid])]
  have hclosing : ['<', '/'] <+: head.closing.toList ++ rest :=
    ⟨head.tag.toList ++ ('>' :: rest), by simp [Element.closing]⟩
  have hkept : ∀ c ∈ gap head nested, decide (c ≠ '<') = true :=
    fun c hc => decide_eq_true (ne_of_mem_gap hc)
  have hstop : ∀ c ∈ (lines (nested.map (render "")) ++ (head.closing.toList ++ rest)).head?,
      decide (c ≠ '<') = false := by
    intro c hc
    rw [head?_lines_append hplain hclosing] at hc
    cases hc
    rfl
  -- What is read as content ends where the first nested fragment or the closing tag begins.
  obtain ⟨htake, hdrop⟩ := takeWhile_append_of_stop hkept hstop
  have hnested := readNested_lines hplain hreads hclosing (show _ < fewer by omega)
  have hclose : (head.closing.toList ++ rest).dropPrefix? ("</" ++ head.tag ++ ">").toList =
      some rest := dropPrefix?_append _ rest
  rw [toList_render_not_isVoid hvoid, readElement, normal_of_not_isVoid hvoid, hshown]
  simp only [dropPrefix?_append, Option.bind_eq_bind, Option.bind_some, hname, hread, hcontains,
    htake, hdrop, hnested, hclose, readContent_gap, Bool.false_eq_true, if_false]
  rfl

theorem readsBack_of_isPlain {fragment : Fragment} (h : fragment.IsPlain) :
    ReadsBack fragment := by
  induction h with
  | @element head nested assets htag hattributes hplain ih =>
    cases hvoid : head.isVoid with
    | true => exact readsBack_of_isVoid htag hattributes hvoid nested assets
    | false => exact readsBack_of_not_isVoid htag hattributes hvoid hplain ih assets

theorem read?_render {fragment : Fragment} (h : fragment.IsPlain) :
    read? (fragment.render "") = some fragment.normal := by
  have hread := readsBack_of_isPlain h _ [] (Nat.le_refl _)
  rw [List.append_nil] at hread
  rw [read?, hread]

end Markup

/-- Two plain fragments are written alike exactly when they have the same normal form, and the
normal form can be read back. -/
theorem Fragment.render_eq_render_iff {fragment other : Fragment} (h : fragment.IsPlain)
    (hother : other.IsPlain) :
    (fragment.render "" = other.render "" ↔ fragment.normal = other.normal) ∧
      Markup.read? (fragment.render "") = some fragment.normal := by
  have hread := Markup.read?_render h
  refine ⟨⟨fun hsame => ?_, fun hsame => ?_⟩, hread⟩
  · rw [hsame, Markup.read?_render hother] at hread
    exact (Option.some.inj hread).symm
  · rw [← render_normal, hsame, render_normal]

/-! ### A note that quotes a tag -/

def brokenNote : Fragment :=
  .element { tag := "p", className := "note" } [.element { tag := "br" } [] {}] {}

/-- A note whose text is the markup of a line break. -/
def quotingNote : Fragment :=
  .element { tag := "p", attributes := [⟨"class", .text "note"⟩], content? := some "<br />" } [] {}

lemma isPlain_brokenNote : brokenNote.IsPlain := by
  have hbreak : (Fragment.element { tag := "br" } [] {}).IsPlain :=
    .element (by decide) (by decide) (by simp)
  exact .element (by decide) (by decide) (by simpa using hbreak)

lemma isPlain_quotingNote : quotingNote.IsPlain :=
  .element (by decide) (by decide) (by simp)

theorem render_eq_render_iff_notes :
    brokenNote.IsPlain ∧ quotingNote.IsPlain ∧
      (brokenNote.render "" = quotingNote.render "" ↔ brokenNote.normal = quotingNote.normal) ∧
      Markup.read? (brokenNote.render "") = some brokenNote.normal :=
  ⟨isPlain_brokenNote, isPlain_quotingNote,
    Fragment.render_eq_render_iff isPlain_brokenNote isPlain_quotingNote⟩

end UtilityMarkup
