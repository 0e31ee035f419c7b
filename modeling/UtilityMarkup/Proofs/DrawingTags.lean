import UtilityMarkup.Proofs.ClassInsertion
import UtilityMarkup.Proofs.InkedDrawings
import UtilityMarkup.Proofs.Reading
import UtilityMarkup.Proofs.Recoloring

/-!
# Tags of drawings

A shape or an icon is compiled to markup that the application has drawn. The edits on it, a color
that is replaced and classes that are added, leave the name of its root alone, and no setting takes
part in them. So the tag that a user gives to such a layer is announced and never rendered.
-/

namespace UtilityMarkup

namespace Markup

/-! ### The first tag of a text -/

/-- The name of a tag starts here, right after a `<`. Comments and declarations start with `!` and
`?`, closing tags with a `/`. -/
def opensName (text : List Char) : Bool :=
  text.head?.any fun c => !endsName c && c != '!' && c != '?'

/-- The name in the first open tag of a text. In a drawing this is the tag of its root, unless a
comment in front of the root has a tag in it. -/
def firstTag? : List Char → Option String
  | [] => none
  | c :: rest => if c = '<' ∧ opensName rest then some (readName rest).1 else firstTag? rest

lemma firstTag?_cons_of_ne {c : Char} (hc : c ≠ '<') (rest : List Char) :
    firstTag? (c :: rest) = firstTag? rest := by
  rw [firstTag?, if_neg fun h => hc h.1]

lemma firstTag?_of_opensName {rest : List Char} (h : opensName rest = true) :
    firstTag? ('<' :: rest) = some (readName rest).1 := by
  rw [firstTag?, if_pos ⟨rfl, h⟩]

lemma firstTag?_of_not_opensName {rest : List Char} (h : opensName rest = false) :
    firstTag? ('<' :: rest) = firstTag? rest := by
  rw [firstTag?, if_neg (by simp [h])]

lemma firstTag?_append_of_not_mem {front : List Char} (h : '<' ∉ front) (rest : List Char) :
    firstTag? (front ++ rest) = firstTag? rest := by
  induction front with
  | nil => rfl
  | cons c front ih =>
    obtain ⟨hc, hfront⟩ := not_or.mp (List.mem_cons.not.mp h)
    rw [List.cons_append, firstTag?_cons_of_ne (Ne.symm hc), ih hfront]

lemma opensName_append_angle (text more : List Char) :
    opensName (text ++ '<' :: more) = opensName text := by
  cases text with
  | nil => rfl
  | cons c text => rfl

/-- A `<` ends the name in front of it. -/
lemma readName_append_angle (text more : List Char) :
    (readName (text ++ '<' :: more)).1 = (readName text).1 := by
  have htake : (text ++ '<' :: more).takeWhile (!endsName ·) = text.takeWhile (!endsName ·) := by
    induction text with
    | nil => rfl
    | cons c text ih => rw [List.cons_append, List.takeWhile_cons, List.takeWhile_cons, ih]
  rw [readName, readName, htake]

lemma firstTag?_append_angle (before more : List Char) :
    firstTag? (before ++ '<' :: more) = (firstTag? before).or (firstTag? ('<' :: more)) := by
  induction before with
  | nil => rfl
  | cons c before ih =>
    rw [List.cons_append, firstTag?, firstTag?, opensName_append_angle, readName_append_angle, ih]
    split <;> rfl

/-! ### Names that the edits keep -/

/-- A name that the edits on a drawing leave alone: no color stands in it, and it is `svg` if it
starts so. -/
structure IsRootName (name : String) : Prop where
  no_hash : '#' ∉ name.toList
  eq_svg : "svg".toList <+: name.toList → name = "svg"

section Recolored

variable {digits : List Char}

lemma head?_ne_hash_of_readName {text : List Char} (h : '#' ∉ (readName text).1.toList) :
    text.head? ≠ some '#' := by
  rw [readName, String.toList_ofList] at h
  intro hhash
  obtain ⟨rest, rfl⟩ := List.head?_eq_some_iff.mp hhash
  rw [List.takeWhile_cons_of_pos (by decide)] at h
  exact h (by simp)

lemma readName_replaceFrom {text : List Char} (h : '#' ∉ (readName text).1.toList) :
    (readName (replaceFrom ('#' :: digits) 0 text)).1 = (readName text).1 := by
  have hends : ∀ c ∈ (text.dropWhile (!endsName ·)).head?, endsName c = true := by
    intro c hc
    have hkept := List.head?_dropWhile_not (!endsName ·) text
    rw [hc] at hkept
    simpa using hkept
  have hhash : (text.dropWhile (!endsName ·)).head? ≠ some '#' := by
    intro hhash
    have hend := hends '#' hhash
    revert hend
    decide
  have hsplit : replaceFrom ('#' :: digits) 0 text = text.takeWhile (!endsName ·) ++
      replaceFrom ('#' :: digits) 0 (text.dropWhile (!endsName ·)) := by
    rw [readName, String.toList_ofList] at h
    rw [← replaceFrom_append h, List.takeWhile_append_dropWhile]
  have hkept : ∀ c ∈ text.takeWhile (!endsName ·), (!endsName c) = true :=
    fun c hc => List.mem_takeWhile_imp (p := (!endsName ·)) hc
  have hstop : ∀ c ∈ (replaceFrom ('#' :: digits) 0 (text.dropWhile (!endsName ·))).head?,
      (!endsName c) = false := by
    rw [head?_replaceFrom hhash]
    intro c hc
    rw [hends c hc, Bool.not_true]
  rw [readName, hsplit, (takeWhile_append_of_stop hkept hstop).1, readName]

lemma opensName_replaceFrom {text : List Char} (h : text.head? ≠ some '#') :
    opensName (replaceFrom ('#' :: digits) 0 text) = opensName text := by
  rw [opensName, head?_replaceFrom h, opensName]

/-- A character that stays where it is. -/
lemma firstTag?_cons_replaceFrom {c : Char} {rest : List Char}
    (hname : ∀ name ∈ firstTag? (c :: rest), '#' ∉ name.toList)
    (ih : (∀ name ∈ firstTag? rest, '#' ∉ name.toList) →
      firstTag? (replaceFrom ('#' :: digits) 0 rest) = firstTag? rest) :
    firstTag? (c :: replaceFrom ('#' :: digits) 0 rest) = firstTag? (c :: rest) := by
  by_cases hangle : c = '<'
  · rw [hangle] at hname ⊢
    cases hopen : opensName rest with
    | true =>
      rw [firstTag?_of_opensName hopen] at hname ⊢
      have hread := hname _ rfl
      have hhead := head?_ne_hash_of_readName hread
      rw [firstTag?_of_opensName ((opensName_replaceFrom hhead).trans hopen),
        readName_replaceFrom hread]
    | false =>
      have hhead : rest.head? ≠ some '#' := by
        intro hhash
        rw [opensName, hhash] at hopen
        revert hopen
        decide
      rw [firstTag?_of_not_opensName hopen] at hname ⊢
      rw [firstTag?_of_not_opensName ((opensName_replaceFrom hhead).trans hopen), ih hname]
  · rw [firstTag?_cons_of_ne hangle] at hname ⊢
    rw [firstTag?_cons_of_ne hangle, ih hname]

lemma angle_not_mem_place (hdigits : ∀ d ∈ digits, d ∈ Color.hexDigits) {text : List Char}
    (h : (Text.dropFolded? ('#' :: digits) text).isSome) :
    '<' ∉ text.take ('#' :: digits).length := by
  have hhex := Text.mem_hexChars hdigits
  obtain ⟨place, hplace, hsame⟩ := (Text.isSome_dropFolded?_iff
    (Text.toLower_mem_hexChars hhex rfl)).mp h
  have hlength : place.length = ('#' :: digits).length := by
    simpa using congrArg List.length hsame
  rw [← hlength, ← List.prefix_iff_eq_take.mp hplace]
  exact fun hmem => absurd (Text.toLower_mem_hexChars hhex hsame '<' hmem) (by decide)

/-- Induction on the text: a place that is replaced has no `<` in it, and what stands for it has
none either. -/
lemma firstTag?_replaceFrom (hdigits : ∀ d ∈ digits, d ∈ Color.hexDigits) {text : List Char}
    {skip : Nat} (hskip : '<' ∉ text.take skip)
    (hname : ∀ name ∈ firstTag? text, '#' ∉ name.toList) :
    firstTag? (replaceFrom ('#' :: digits) skip text) = firstTag? text := by
  induction text generalizing skip with
  | nil => cases skip <;> rfl
  | cons c rest ih =>
    cases skip with
    | succ skip =>
      obtain ⟨hc, hrest⟩ := not_or.mp (List.mem_cons.not.mp hskip)
      rw [firstTag?_cons_of_ne (Ne.symm hc)] at hname ⊢
      exact ih hrest hname
    | zero =>
      rw [replaceFrom]
      split
      · rename_i hplace
        obtain ⟨hc, hrest⟩ := not_or.mp (List.mem_cons.not.mp (angle_not_mem_place hdigits hplace))
        rw [firstTag?_cons_of_ne (Ne.symm hc)] at hname ⊢
        rw [firstTag?_append_of_not_mem (by decide)]
        exact ih hrest hname
      · exact firstTag?_cons_replaceFrom hname (ih (by simp))

end Recolored

theorem firstTag?_useCurrentColor (color : Color) {markup : String}
    (hname : ∀ name ∈ firstTag? markup.toList, '#' ∉ name.toList) :
    firstTag? (useCurrentColor markup color.hex).toList = firstTag? markup.toList := by
  rw [useCurrentColor, String.toList_ofList, replaceHex_hex]
  exact firstTag?_replaceFrom (fun _ => Color.mem_hexDigits_of_mem_baseDigits) (by simp) hname

/-! ### Classes of the root -/

/-- Classes are added right behind a `<svg`, or after what follows it. -/
lemma insertClasses_cases (classes markup : List Char) :
    insertClasses classes markup = markup ∨
    ∃ before after more, markup = before ++ rootTag ++ after ∧
      insertClasses classes markup = before ++ rootTag ++ more ∧
      (more.head? = some ' ' ∨ more.head? = after.head?) := by
  cases hasClassPlace markup with
  | noRoot hnone => exact .inl (insertClasses_of_noRoot hnone)
  | @behindName front after hfirst hclass =>
    refine .inr ⟨front, after, classOpening ++ classes ++ ['"'] ++ after, rfl, ?_, .inl rfl⟩
    rw [insertClasses_behindName hfirst hclass, List.append_assoc (front ++ rootTag)]
  | @inValue front tag value hfirst htag hclass =>
    refine .inr ⟨front, tag ++ classOpening ++ value, _, rfl,
      insertClasses_inValue hfirst htag hclass, ?_⟩
    cases tag with
    | nil => exact .inl rfl
    | cons c tag => exact .inr rfl

lemma takeWhile_eq_nil_iff_head? {p : Char → Bool} {text : List Char} :
    text.takeWhile p = [] ↔ ∀ c ∈ text.head?, p c = false := by
  cases text with
  | nil => simp
  | cons c rest => cases hc : p c <;> simp [hc]

lemma firstTag?_rootTag (text : List Char) :
    firstTag? (rootTag ++ text) =
      some ("svg" ++ .ofList (text.takeWhile (!endsName ·))) := by
  have hkept : ∀ c ∈ "svg".toList, (!endsName c) = true := by
    rw [← List.forall_iff_forall_mem]
    decide
  change firstTag? ('<' :: ("svg".toList ++ text)) = _
  rw [firstTag?_of_opensName (by rfl), readName, List.takeWhile_append_of_pos hkept,
    String.ofList_append, String.ofList_toList]

lemma firstTag?_append_rootTag (before text : List Char) :
    firstTag? (before ++ rootTag ++ text) =
      (firstTag? before).or (firstTag? (rootTag ++ text)) := by
  rw [List.append_assoc]
  exact firstTag?_append_angle before _

theorem firstTag?_insertClasses (classes : List Char) {markup : List Char}
    (hroot : ∀ name ∈ firstTag? markup, "svg".toList <+: name.toList → name = "svg") :
    firstTag? (insertClasses classes markup) = firstTag? markup := by
  obtain hsame | ⟨before, after, more, hmarkup, hinsert, hhead⟩ :=
    insertClasses_cases classes markup
  · rw [hsame]
  rw [hinsert, hmarkup, firstTag?_append_rootTag, firstTag?_append_rootTag]
  cases hbefore : firstTag? before with
  | some name => rfl
  | none =>
    rw [hmarkup, firstTag?_append_rootTag, hbefore, Option.none_or, firstTag?_rootTag] at hroot
    have hafter : after.takeWhile (!endsName ·) = [] := by
      simpa using hroot _ rfl (by simp)
    have hmore : more.takeWhile (!endsName ·) = [] := by
      rw [takeWhile_eq_nil_iff_head?] at hafter ⊢
      rcases hhead with hblank | hsame
      · rw [hblank]
        intro c hc
        cases hc
        rfl
      · rwa [hsame]
    rw [firstTag?_rootTag, firstTag?_rootTag, hafter, hmore]

theorem firstTag?_injectClasses {markup : String} (classes : String)
    (hroot : ∀ name ∈ firstTag? markup.toList, "svg".toList <+: name.toList → name = "svg") :
    firstTag? (injectClasses markup classes).toList = firstTag? markup.toList := by
  rw [injectClasses]
  split
  · rfl
  · rw [String.toList_ofList, firstTag?_insertClasses _ hroot]

end Markup

/-! ### Drawn nodes -/

namespace Context

variable {node : Node} {parent? : Option Parent} {markup tag : String}

lemma firstTag?_inked {colors : List NamedColor}
    (hcolors : ∀ color ∈ colors, ∃ value : Color, color.hex = value.hex)
    (hname : ∀ name ∈ Markup.firstTag? markup.toList, '#' ∉ name.toList) :
    Markup.firstTag? (inked colors markup).toList = Markup.firstTag? markup.toList := by
  unfold inked
  split
  · rename_i color
    obtain ⟨value, hvalue⟩ := hcolors color (by simp)
    rw [hvalue, Markup.firstTag?_useCurrentColor value hname]
  · rfl

theorem firstTag?_drawn (context : Context) (node : Node) (parent? : Option Parent)
    (hroot : ∀ name ∈ Markup.firstTag? markup.toList, Markup.IsRootName name) :
    Markup.firstTag? (context.drawn node parent? markup).toList =
      Markup.firstTag? markup.toList := by
  have hcolors : ∀ color ∈ context.boundColors node.shapeFills,
      ∃ value : Color, color.hex = value.hex := by
    intro color hcolor
    obtain ⟨-, -, value, -, -, rfl⟩ := mem_boundColors_iff.mp hcolor
    exact ⟨value, rfl⟩
  have hinked := firstTag?_inked hcolors fun name hname => (hroot name hname).no_hash
  rw [drawn, Markup.firstTag?_injectClasses, hinked]
  rw [hinked]
  exact fun name hname => (hroot name hname).eq_svg

/-- A tag that the user gives to a shape or an icon is in the outline of the node, but the settings
have no part in what the node compiles to, which has the first tag of the drawing. -/
theorem compileIn_keeps_drawing_tag (resources : Resources) (settings : Settings)
    (parent? : Option Parent) (hrole : Role.of node = .shape ∨ Role.of node = .icon)
    (hdrawing : resources.drawings[node.layer.id]? = some markup)
    (htag : settings.userTag? node.layer.id = some tag)
    (hroot : ∀ name ∈ Markup.firstTag? markup.toList, Markup.IsRootName name) :
    (outline ⟨resources, settings⟩ node).tag = tag ∧
    ∃ output, (∀ settings' : Settings, compileIn ⟨resources, settings'⟩ parent? node = .ok output) ∧
      Markup.firstTag? output.markup.toList = Markup.firstTag? markup.toList := by
  -- Bound colors come from the resources, so every settings give one and the same output.
  have hcompile (settings' : Settings) : compileIn ⟨resources, settings'⟩ parent? node =
      .ok { markup := drawn ⟨resources, settings⟩ node parent? markup
            assets := { colors := boundColors ⟨resources, settings⟩ node.shapeFills } } := by
    have hcolors : boundColors ⟨resources, settings'⟩ node.shapeFills =
        boundColors ⟨resources, settings⟩ node.shapeFills :=
      boundColors_congr (by rfl) _
    rw [compileIn_drawn hrole hdrawing, drawn, drawn, hcolors]
  refine ⟨?_, _, hcompile, firstTag?_drawn ⟨resources, settings⟩ node parent? hroot⟩
  change (settings.userTag? node.layer.id).getD _ = tag
  rw [htag, Option.getD_some]

end Context

/-! ### A star with a tag of its own -/

def star : Node :=
  .mk { id := "star", name := "Star", kind := .star
        fills := [.solid { color := ⟨0, 0, 0, 1⟩, boundTo? := some "ink" }] } []

def starDrawing : String := "<svg><path fill=\"#000000\"/></svg>"

def starResources : Resources where
  designVariables := .ofList [("ink", (⟨"ink", some ⟨0, 0, 0, 1⟩⟩ : Variable))]
  drawings := .ofList [("star", starDrawing)]

def starSettings : Settings where
  tags := .ofList [("star", "i")]

theorem compileIn_keeps_drawing_tag_star :
    Role.of star = .shape ∧
    starResources.drawings[star.layer.id]? = some starDrawing ∧
    starSettings.userTag? star.layer.id = some "i" ∧
    (∀ name ∈ Markup.firstTag? starDrawing.toList, Markup.IsRootName name) ∧
    (Context.outline ⟨starResources, starSettings⟩ star).tag = "i" ∧
    ∃ output,
      (∀ settings', Context.compileIn ⟨starResources, settings'⟩ none star = .ok output) ∧
      Markup.firstTag? output.markup.toList = some "svg" := by
  have hrole : Role.of star = .shape := by decide
  have hdrawing : starResources.drawings[star.layer.id]? = some starDrawing := by decide +kernel
  have htag : starSettings.userTag? star.layer.id = some "i" := by decide +kernel
  have hfirst : Markup.firstTag? starDrawing.toList = some "svg" := by decide +kernel
  have hroot : ∀ name ∈ Markup.firstTag? starDrawing.toList, Markup.IsRootName name := by
    rw [hfirst]
    rintro name hname
    cases hname
    exact ⟨by decide, fun _ => rfl⟩
  have hstar := Context.compileIn_keeps_drawing_tag starResources starSettings none (.inl hrole)
    hdrawing htag hroot
  rw [hfirst] at hstar
  exact ⟨hrole, hdrawing, htag, hroot, hstar⟩

/-- The star is announced as an `i` and rendered as a `svg`. -/
theorem star_rendered_with_other_tag :
    let markup := "<svg class=\"text-ink\"><path fill=\"currentColor\"/></svg>"
    starSettings.userTag? star.layer.id = some "i" ∧
    (Context.outline ⟨starResources, starSettings⟩ star).tag = "i" ∧
    Context.compile ⟨starResources, starSettings⟩ star =
      .ok { markup := markup, assets := { colors := [ink] } } ∧
    Markup.firstTag? markup.toList = some "svg" := by
  exact ⟨by decide +kernel, by decide +kernel, by decide +kernel, by decide +kernel⟩

end UtilityMarkup
