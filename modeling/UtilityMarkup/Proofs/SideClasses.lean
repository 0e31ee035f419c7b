import Mathlib
import UtilityMarkup.Proofs.NumberClasses
import UtilityMarkup.Utility.Container

/-!
# Sides and corners

What a class with the stem of a padding, of a border or of a corner sets: two sides or corners that
belong together, or one. Read like this, the classes of a layer set every side and corner once, to
its own value or to one that compares equal to it, and those of value zero not at all.
-/

namespace UtilityMarkup

inductive Side where
  | top
  | right
  | bottom
  | left
deriving DecidableEq

def Sides.value (sides : Sides) : Side → Float
  | .top => sides.top
  | .right => sides.right
  | .bottom => sides.bottom
  | .left => sides.left

inductive Corner where
  | topLeft
  | topRight
  | bottomRight
  | bottomLeft
deriving DecidableEq

def Corners.value (corners : Corners) : Corner → Float
  | .topLeft => corners.topLeft
  | .topRight => corners.topRight
  | .bottomRight => corners.bottomRight
  | .bottomLeft => corners.bottomLeft

/-- What a class can set a value of. -/
inductive Spot where
  | padding (side : Side)
  | border (side : Side)
  | corner (corner : Corner)
deriving DecidableEq

/-! ### Reading a class -/

/-- A class that sets spots to a value, which stands behind its stem and has its sign in front. -/
structure SpotClass where
  negative : Bool
  spots : List Spot
  value : String
deriving DecidableEq

namespace SpotClass

/-- The spots that a class with a given stem sets. -/
def stems : List (String × List Spot) :=
  [("px", [.padding .left, .padding .right]),
    ("py", [.padding .top, .padding .bottom]),
    ("pl", [.padding .left]),
    ("pr", [.padding .right]),
    ("pt", [.padding .top]),
    ("pb", [.padding .bottom]),
    ("border-x", [.border .left, .border .right]),
    ("border-y", [.border .top, .border .bottom]),
    ("border-l", [.border .left]),
    ("border-r", [.border .right]),
    ("border-t", [.border .top]),
    ("border-b", [.border .bottom]),
    ("rounded-s", [.corner .topLeft, .corner .bottomLeft]),
    ("rounded-e", [.corner .topRight, .corner .bottomRight]),
    ("rounded-ss", [.corner .topLeft]),
    ("rounded-es", [.corner .bottomLeft]),
    ("rounded-se", [.corner .topRight]),
    ("rounded-ee", [.corner .bottomRight])]

/-- What can stand between a sign and a value. -/
def fronts : List (List Char × List Spot) :=
  stems.map fun (stem, spots) => (stem.toList ++ ['-'], spots)

def readUnsigned? (negative : Bool) (text : List Char) : Option SpotClass :=
  (fronts.find? (·.1.isPrefixOf text)).map fun (front, spots) =>
    ⟨negative, spots, .ofList (text.drop front.length)⟩

def read? (text : String) : Option SpotClass :=
  match text.toList with
  | '-' :: rest => readUnsigned? true rest
  | chars => readUnsigned? false chars

variable {stem : String} {spots : List Spot}

lemma isWord_stem (h : (stem, spots) ∈ stems) : Text.IsWord stem := by
  have hwords : ∀ pair ∈ stems, pair.1 ≠ "" ∧ Text.Unbroken pair.1 := by decide
  exact ⟨(hwords _ h).1, (hwords _ h).2⟩

/-- A class without a sign does not start like one with a sign. -/
lemma head?_fronts : ∀ front ∈ fronts, front.1.head? ≠ some '-' := by
  decide +kernel

lemma front_inj : ∀ a ∈ fronts, ∀ b ∈ fronts, a.1 <+: b.1 → a = b := by
  decide +kernel

/-- What stands in front of a value is found again, whatever the value is. -/
lemma find?_fronts {front : List Char × List Spot} (h : front ∈ fronts) (value : List Char) :
    fronts.find? (·.1.isPrefixOf (front.1 ++ value)) = some front := by
  cases hfind : fronts.find? (·.1.isPrefixOf (front.1 ++ value)) with
  | none =>
    have hself := List.find?_eq_none.mp hfind front h
    simp at hself
  | some found =>
    have hfound : found ∈ fronts := List.mem_of_find?_eq_some hfind
    have hprefix : found.1 <+: front.1 ++ value := by
      simpa using List.find?_some hfind
    rcases List.prefix_or_prefix_of_prefix hprefix (List.prefix_append _ _) with hshort | hlong
    · rw [front_inj found hfound front h hshort]
    · rw [front_inj front h found hfound hlong]

lemma read?_eq (negative : Bool) (h : (stem, spots) ∈ stems) (value : String) :
    read? (Number.signText negative ++ stem ++ "-" ++ value) = some ⟨negative, spots, value⟩ := by
  have hfront : (stem.toList ++ ['-'], spots) ∈ fronts := List.mem_map.mpr ⟨_, h, rfl⟩
  have hunsigned : readUnsigned? negative (stem.toList ++ ['-'] ++ value.toList) =
      some ⟨negative, spots, value⟩ := by
    rw [readUnsigned?, find?_fronts hfront value.toList]
    simp only [Option.map_some, List.drop_left, String.ofList_toList]
  have htext : (Number.signText negative ++ stem ++ "-" ++ value).toList =
      (Number.signText negative).toList ++ (stem.toList ++ ['-'] ++ value.toList) := by
    simp
  rw [read?, htext]
  cases negative with
  | true => exact hunsigned
  | false =>
    have hhead : (stem.toList ++ ['-']).head? ≠ some '-' := head?_fronts _ hfront
    obtain ⟨c, rest, hrest⟩ : ∃ c rest, stem.toList ++ ['-'] = c :: rest :=
      List.exists_cons_of_ne_nil (by simp)
    rw [hrest] at hhead hunsigned ⊢
    have hdash : c ≠ '-' := by
      simpa using hhead
    simpa [Number.signText, hdash] using hunsigned

end SpotClass

namespace Spot

/-- The classes among the entries that set the spot. -/
def settings (spot : Spot) (entries : List String) : List SpotClass :=
  (entries.filterMap SpotClass.read?).filter (spot ∈ ·.spots)

lemma settings_append (spot : Spot) (entries more : List String) :
    spot.settings (entries ++ more) = spot.settings entries ++ spot.settings more := by
  rw [settings, List.filterMap_append, List.filter_append]
  rfl

end Spot

/-! ### Classes of one number -/

lemma beq_zero_congr {number value : Float} (h : number = value ∨ (number == value) = true) :
    (number == 0) = (value == 0) := by
  rcases h with rfl | h
  · rfl
  · exact BEq.congr_left h

namespace Vocabulary

variable {vocabulary : Vocabulary} {quantity : Quantity} {stem : String} {spots : List Spot}
  {spot : Spot} {number value : Float} {entries more : List String}

/-- One of the entries sets the spot, and it has the sign and the value text of the number or of one
that compares equal to it. None does when the number is zero. -/
structure SetsOnce (vocabulary : Vocabulary) (quantity : Quantity) (entries : List String)
    (spot : Spot) (value : Float) : Prop where
  kept : (value == 0) = false → ∃ setting number text, spot.settings entries = [setting] ∧
    (number = value ∨ (number == value) = true) ∧
    vocabulary.Spells quantity number setting.negative text ∧ setting.value = Text.trimEnd text
  dropped : (value == 0) = true → spot.settings entries = []

lemma SetsOnce.append_right (h : vocabulary.SetsOnce quantity entries spot value)
    (hmore : spot.settings more = []) :
    vocabulary.SetsOnce quantity (entries ++ more) spot value where
  kept := by rw [Spot.settings_append, hmore, List.append_nil]; exact h.kept
  dropped := by rw [Spot.settings_append, hmore, List.append_nil]; exact h.dropped

lemma SetsOnce.append_left (h : vocabulary.SetsOnce quantity entries spot value)
    (hmore : spot.settings more = []) :
    vocabulary.SetsOnce quantity (more ++ entries) spot value where
  kept := by rw [Spot.settings_append, hmore, List.nil_append]; exact h.kept
  dropped := by rw [Spot.settings_append, hmore, List.nil_append]; exact h.dropped

/-- The class list of a single number. -/
def numberEntries (vocabulary : Vocabulary) (quantity : Quantity) (stem : String)
    (number : Float) : List String :=
  (Classes.ofList [vocabulary.number quantity (some stem) number]).entries

lemma settings_of_spells {negative : Bool} {text : String} (hstem : (stem, spots) ∈ SpotClass.stems)
    (h : vocabulary.Spells quantity number negative text) (spot : Spot) :
    spot.settings (vocabulary.numberEntries quantity stem number) =
      [⟨negative, spots, Text.trimEnd text⟩].filter (spot ∈ ·.spots) := by
  rw [Spot.settings, numberEntries, entries_of_spells (SpotClass.isWord_stem hstem) h,
    List.filterMap_cons_some (SpotClass.read?_eq negative hstem _), List.filterMap_nil]

lemma settings_of_zero (stem : String) (h : (number == 0) = true) (spot : Spot) :
    spot.settings (vocabulary.numberEntries quantity stem number) = [] := by
  rw [numberEntries, entries_of_zero stem h]
  rfl

lemma settings_numberEntries_of_notMem (vocabulary : Vocabulary) (quantity : Quantity)
    (number : Float) (hstem : (stem, spots) ∈ SpotClass.stems) (h : spot ∉ spots) :
    spot.settings (vocabulary.numberEntries quantity stem number) = [] := by
  cases hzero : number == 0 with
  | true => exact settings_of_zero stem hzero spot
  | false =>
    obtain ⟨negative, text, hspells⟩ := exists_spells vocabulary quantity hzero
    rw [settings_of_spells hstem hspells spot, List.filter_cons_of_neg (by simpa using h),
      List.filter_nil]

/-- A number under a stem sets each spot of the stem once. -/
lemma setsOnce_numberEntries (vocabulary : Vocabulary) (quantity : Quantity)
    (hstem : (stem, spots) ∈ SpotClass.stems) (hspot : spot ∈ spots)
    (hvalue : number = value ∨ (number == value) = true) :
    vocabulary.SetsOnce quantity (vocabulary.numberEntries quantity stem number) spot value where
  kept := by
    intro hne
    rw [← beq_zero_congr hvalue] at hne
    obtain ⟨negative, text, hspells⟩ := exists_spells vocabulary quantity hne
    refine ⟨⟨negative, spots, Text.trimEnd text⟩, number, text, ?_, hvalue, hspells, rfl⟩
    rw [settings_of_spells hstem hspells spot, List.filter_cons_of_pos (by simpa using hspot),
      List.filter_nil]
  dropped := by
    intro hzero
    rw [← beq_zero_congr hvalue] at hzero
    exact settings_of_zero stem hzero spot

/-! ### Classes of a pair -/

end Vocabulary

/-- The stems of two values set these two spots. -/
structure PairStems.Sets (stems : PairStems) (first second : Spot) : Prop where
  both_mem : (stems.both, [first, second]) ∈ SpotClass.stems
  first_mem : (stems.first, [first]) ∈ SpotClass.stems
  second_mem : (stems.second, [second]) ∈ SpotClass.stems
  ne : first ≠ second

namespace Vocabulary

variable {vocabulary : Vocabulary} {quantity : Quantity} {stems : PairStems}
  {first second spot : Spot} {x y : Float}

def pairEntries (vocabulary : Vocabulary) (quantity : Quantity) (stems : PairStems)
    (x y : Float) : List String :=
  (Classes.ofList (vocabulary.pair quantity stems x y)).entries

lemma pairEntries_of_eq (vocabulary : Vocabulary) (quantity : Quantity) (stems : PairStems)
    (h : (x == y) = true) : vocabulary.pairEntries quantity stems x y =
      vocabulary.numberEntries quantity stems.both x := by
  rw [pairEntries, pair, if_pos h, numberEntries]

lemma pairEntries_of_ne (vocabulary : Vocabulary) (quantity : Quantity) (stems : PairStems)
    (h : (x == y) = false) : vocabulary.pairEntries quantity stems x y =
      vocabulary.numberEntries quantity stems.first x ++
        vocabulary.numberEntries quantity stems.second y := by
  rw [pairEntries, pair, if_neg (by simp [h]), Classes.ofList_cons]
  rfl

lemma setsOnce_first (vocabulary : Vocabulary) (quantity : Quantity) (h : stems.Sets first second)
    (x y : Float) :
    vocabulary.SetsOnce quantity (vocabulary.pairEntries quantity stems x y) first x := by
  cases hxy : x == y with
  | true =>
    rw [pairEntries_of_eq vocabulary quantity stems hxy]
    exact setsOnce_numberEntries vocabulary quantity h.both_mem (by simp) (.inl rfl)
  | false =>
    have hsecond : first.settings (vocabulary.numberEntries quantity stems.second y) = [] :=
      settings_numberEntries_of_notMem vocabulary quantity y h.second_mem (by simpa using h.ne)
    rw [pairEntries_of_ne vocabulary quantity stems hxy]
    exact (setsOnce_numberEntries vocabulary quantity h.first_mem (by simp) (.inl rfl)).append_right
      hsecond

lemma setsOnce_second (vocabulary : Vocabulary) (quantity : Quantity) (h : stems.Sets first second)
    (x y : Float) :
    vocabulary.SetsOnce quantity (vocabulary.pairEntries quantity stems x y) second y := by
  cases hxy : x == y with
  | true =>
    -- The class is that of the first value, whose bits may differ: the two zeros are equal.
    rw [pairEntries_of_eq vocabulary quantity stems hxy]
    exact setsOnce_numberEntries vocabulary quantity h.both_mem (by simp) (.inr hxy)
  | false =>
    have hfirst : second.settings (vocabulary.numberEntries quantity stems.first x) = [] :=
      settings_numberEntries_of_notMem vocabulary quantity x h.first_mem (by simpa using h.ne.symm)
    rw [pairEntries_of_ne vocabulary quantity stems hxy]
    exact (setsOnce_numberEntries vocabulary quantity h.second_mem (by simp) (.inl rfl)).append_left
      hfirst

lemma settings_pairEntries (vocabulary : Vocabulary) (quantity : Quantity)
    (h : stems.Sets first second) (x y : Float) (hspot : spot ≠ first ∧ spot ≠ second) :
    spot.settings (vocabulary.pairEntries quantity stems x y) = [] := by
  cases hxy : x == y with
  | true =>
    rw [pairEntries_of_eq vocabulary quantity stems hxy]
    exact settings_numberEntries_of_notMem vocabulary quantity x h.both_mem (by simpa using hspot)
  | false =>
    rw [pairEntries_of_ne vocabulary quantity stems hxy, Spot.settings_append,
      settings_numberEntries_of_notMem vocabulary quantity x h.first_mem (by simpa using hspot.1),
      settings_numberEntries_of_notMem vocabulary quantity y h.second_mem (by simpa using hspot.2),
      List.append_nil]

/-- Two pairs for four spots set each of them once. -/
lemma setsOnce_pairs (vocabulary : Vocabulary) (quantity : Quantity) {others : PairStems}
    {third fourth : Spot} (h : stems.Sets first second) (hothers : others.Sets third fourth)
    (hnodup : [first, second, third, fourth].Nodup) (x y z w : Float) :
    let entries := (Classes.ofList
      (vocabulary.pair quantity stems x y ++ vocabulary.pair quantity others z w)).entries
    vocabulary.SetsOnce quantity entries first x ∧ vocabulary.SetsOnce quantity entries second y ∧
      vocabulary.SetsOnce quantity entries third z ∧
      vocabulary.SetsOnce quantity entries fourth w := by
  intro entries
  have hentries : entries =
      vocabulary.pairEntries quantity stems x y ++ vocabulary.pairEntries quantity others z w := by
    simp only [entries, Classes.ofList_append, Classes.entries_append, pairEntries]
  have hapart : first ≠ third ∧ first ≠ fourth ∧ second ≠ third ∧ second ≠ fourth := by
    simp only [List.nodup_cons, List.mem_cons, List.not_mem_nil, or_false, not_or] at hnodup
    exact ⟨hnodup.1.2.1, hnodup.1.2.2, hnodup.2.1⟩
  obtain ⟨h13, h14, h23, h24⟩ := hapart
  rw [hentries]
  exact ⟨
    (setsOnce_first vocabulary quantity h x y).append_right
      (settings_pairEntries vocabulary quantity hothers z w ⟨h13, h14⟩),
    (setsOnce_second vocabulary quantity h x y).append_right
      (settings_pairEntries vocabulary quantity hothers z w ⟨h23, h24⟩),
    (setsOnce_first vocabulary quantity hothers z w).append_left
      (settings_pairEntries vocabulary quantity h x y ⟨h13.symm, h23.symm⟩),
    (setsOnce_second vocabulary quantity hothers z w).append_left
      (settings_pairEntries vocabulary quantity h x y ⟨h14.symm, h24.symm⟩)⟩

lemma setsOnce_padding (vocabulary : Vocabulary) {layout : Layout} (h : layout.isFlex = true)
    (side : Side) :
    vocabulary.SetsOnce .spacing (Classes.ofList (vocabulary.padding layout)).entries
      (.padding side) (layout.padding.value side) := by
  have hhorizontal : PairStems.horizontalPadding.Sets (.padding .left) (.padding .right) := by
    constructor <;> decide
  have hvertical : PairStems.verticalPadding.Sets (.padding .top) (.padding .bottom) := by
    constructor <;> decide
  have hpairs := setsOnce_pairs vocabulary .spacing hhorizontal hvertical (by decide)
    layout.padding.left layout.padding.right layout.padding.top layout.padding.bottom
  obtain ⟨hleft, hright, htop, hbottom⟩ := hpairs
  rw [padding, if_pos h]
  cases side with
  | top => exact htop
  | right => exact hright
  | bottom => exact hbottom
  | left => exact hleft

lemma setsOnce_strokeWeight (vocabulary : Vocabulary) (weights : Sides) (side : Side) :
    vocabulary.SetsOnce .border
      (Classes.ofList (vocabulary.strokeWeight (.mixed weights))).entries
      (.border side) (weights.value side) := by
  have hvertical : PairStems.verticalBorder.Sets (.border .top) (.border .bottom) := by
    constructor <;> decide
  have hhorizontal : PairStems.horizontalBorder.Sets (.border .left) (.border .right) := by
    constructor <;> decide
  have hpairs := setsOnce_pairs vocabulary .border hvertical hhorizontal (by decide)
    weights.top weights.bottom weights.left weights.right
  obtain ⟨htop, hbottom, hleft, hright⟩ := hpairs
  cases side with
  | top => exact htop
  | right => exact hright
  | bottom => exact hbottom
  | left => exact hleft

lemma setsOnce_cornerRadius (vocabulary : Vocabulary) (radii : Corners) (corner : Corner) :
    vocabulary.SetsOnce .radius
      (Classes.ofList (vocabulary.cornerRadius (.mixed radii))).entries
      (.corner corner) (radii.value corner) := by
  have hstart : PairStems.startCorners.Sets (.corner .topLeft) (.corner .bottomLeft) := by
    constructor <;> decide
  have hend : PairStems.endCorners.Sets (.corner .topRight) (.corner .bottomRight) := by
    constructor <;> decide
  have hpairs := setsOnce_pairs vocabulary .radius hstart hend (by decide)
    radii.topLeft radii.bottomLeft radii.topRight radii.bottomRight
  obtain ⟨htopLeft, hbottomLeft, htopRight, hbottomRight⟩ := hpairs
  cases corner with
  | topLeft => exact htopLeft
  | topRight => exact htopRight
  | bottomRight => exact hbottomRight
  | bottomLeft => exact hbottomLeft

end Vocabulary

/-! ### Sections of a class list -/

namespace Context

lemma padding_infix (context : Context) (node : Node) (parent? : Option Parent) :
    (Classes.ofList (context.vocabulary.padding node.layer.layout)).entries <:+:
      (context.container node parent?).classes.entries := by
  have hbox := Classes.entries_infix
    (List.infix_append
      (context.vocabulary.rotation node.layer ::
        (context.vocabulary.placement (.of node parent?) ++
          context.vocabulary.size node.layer parent?))
      (context.vocabulary.padding node.layer.layout)
      ([flexItem node.layer.layout parent?,
        if node.layer.clipsContent then "overflow-hidden" else ""] ++
        context.vocabulary.flexContainer node.layer.layout))
  refine hbox.trans (List.IsPrefix.isInfix ?_)
  rw [container, Classes.entries_append, Classes.entries_append, List.append_assoc]
  simp only [List.cons_append, List.append_assoc]
  exact List.prefix_append _ _

/-- The classes of border and corners end those of a container and of a picture's box. -/
lemma edges_suffix (context : Context) (node : Node) (parent? : Option Parent) :
    ∀ classes ∈ [(context.container node parent?).classes, context.pictureBox node parent?],
      (Classes.ofList (context.border node.layer ++
        context.vocabulary.cornerRadius node.layer.cornerRadius)).entries <:+ classes.entries := by
  intro classes hclasses
  rcases List.mem_pair.mp hclasses with rfl | rfl
  · rw [container, Classes.entries_append]
    exact List.suffix_append _ _
  · have hbox : context.pictureBox node parent? =
        .ofList (context.vocabulary.rotation node.layer ::
          (context.vocabulary.placement (.of node parent?) ++
            context.vocabulary.size node.layer parent? ++ [flexItem node.layer.layout parent?])) ++
        .ofList (context.border node.layer ++
          context.vocabulary.cornerRadius node.layer.cornerRadius) := by
      rw [pictureBox, ← Classes.ofList_append]
      simp only [List.cons_append, List.append_assoc]
    rw [hbox, Classes.entries_append]
    exact List.suffix_append _ _

lemma strokeWeight_infix (context : Context) {node : Node} (parent? : Option Parent)
    (h : node.layer.strokes ≠ []) :
    ∀ classes ∈ [(context.container node parent?).classes, context.pictureBox node parent?],
      (Classes.ofList (context.vocabulary.strokeWeight node.layer.strokeWeight)).entries <:+:
        classes.entries := by
  intro classes hclasses
  have hborder : context.vocabulary.strokeWeight node.layer.strokeWeight <+:
      context.border node.layer := by
    obtain ⟨first, others, hstrokes⟩ := List.exists_cons_of_ne_nil h
    rw [border, hstrokes]
    exact ⟨_, (List.append_assoc _ _ _).symm⟩
  have hedges := hborder.trans
    (List.prefix_append _ (context.vocabulary.cornerRadius node.layer.cornerRadius))
  exact (Classes.entries_infix hedges.isInfix).trans
    (context.edges_suffix node parent? classes hclasses).isInfix

lemma cornerRadius_infix (context : Context) (node : Node) (parent? : Option Parent) :
    ∀ classes ∈ [(context.container node parent?).classes, context.pictureBox node parent?],
      (Classes.ofList (context.vocabulary.cornerRadius node.layer.cornerRadius)).entries <:+:
        classes.entries := fun classes hclasses =>
  (Classes.entries_infix (List.suffix_append _ _).isInfix).trans
    (context.edges_suffix node parent? classes hclasses).isInfix

/-- The classes of the paddings of a flex container, of a border with mixed widths and of mixed
corners set each side and corner once, unless it is zero. -/
theorem sides_setOnce (context : Context) (node : Node) (parent? : Option Parent) :
    let layer := node.layer
    let boxes := [(context.container node parent?).classes, context.pictureBox node parent?]
    (layer.layout.isFlex = true →
      let paddings := (Classes.ofList (context.vocabulary.padding layer.layout)).entries
      paddings <:+: (context.container node parent?).classes.entries ∧
      ∀ side, context.vocabulary.SetsOnce .spacing paddings (.padding side)
        (layer.layout.padding.value side)) ∧
    (∀ weights, layer.strokes ≠ [] → layer.strokeWeight = .mixed weights →
      let widths := (Classes.ofList (context.vocabulary.strokeWeight (.mixed weights))).entries
      (∀ classes ∈ boxes, widths <:+: classes.entries) ∧
      ∀ side, context.vocabulary.SetsOnce .border widths (.border side) (weights.value side)) ∧
    (∀ radii, layer.cornerRadius = .mixed radii →
      let corners := (Classes.ofList (context.vocabulary.cornerRadius (.mixed radii))).entries
      (∀ classes ∈ boxes, corners <:+: classes.entries) ∧
      ∀ corner, context.vocabulary.SetsOnce .radius corners (.corner corner)
        (radii.value corner)) := by
  intro layer boxes
  refine ⟨fun hflex => ?_, fun weights hstrokes hweights => ?_, fun radii hradii => ?_⟩
  · exact ⟨context.padding_infix node parent?, context.vocabulary.setsOnce_padding hflex⟩
  · have hsection := context.strokeWeight_infix parent? hstrokes
    rw [hweights] at hsection
    exact ⟨hsection, context.vocabulary.setsOnce_strokeWeight weights⟩
  · have hsection := context.cornerRadius_infix node parent?
    rw [hradii] at hsection
    exact ⟨hsection, context.vocabulary.setsOnce_cornerRadius radii⟩

end Context

/-! ### A panel with uneven edges -/

def panelPadding : Sides where
  top := 8
  right := -4
  bottom := 0
  left := 4

def panelWeights : Sides where
  top := 1
  right := 0.5
  bottom := 1
  left := 0

def panelRadii : Corners where
  topLeft := 0 / 0
  topRight := 4
  bottomRight := 4
  bottomLeft := -3

def panel : Node :=
  .mk { id := "panel", name := "Panel", kind := .frame
        layout := { flow := .row, padding := panelPadding }
        strokes := [.gradient { shape := .linear, stops := [] }]
        strokeWeight := .mixed panelWeights
        cornerRadius := .mixed panelRadii } []

def panelVocabulary : Vocabulary :=
  { Vocabulary.empty with
    spacing := .ofPairs [(4, "1"), (8, "2")]
    radius := .ofPairs [(4, "sm")] }

def panelContext : Context where
  resources := {}
  settings := { vocabulary := panelVocabulary }

lemma padding_panel :
    (Classes.ofList (panelContext.vocabulary.padding panel.layer.layout)).entries =
      ["pl-1", "-pr-1", "pt-2"] := by
  decide +kernel

lemma strokeWeight_panel :
    (Classes.ofList (panelContext.vocabulary.strokeWeight (.mixed panelWeights))).entries =
      ["border-y-1", "border-r-0.5"] := by
  decide +kernel

lemma cornerRadius_panel :
    (Classes.ofList (panelContext.vocabulary.cornerRadius (.mixed panelRadii))).entries =
      ["rounded-ss-[NaNpx]", "rounded-es-[-3px]", "rounded-e-sm"] := by
  decide +kernel

theorem sides_setOnce_panel :
    (∀ side, panelContext.vocabulary.SetsOnce .spacing ["pl-1", "-pr-1", "pt-2"] (.padding side)
      (panelPadding.value side)) ∧
    (∀ side, panelContext.vocabulary.SetsOnce .border ["border-y-1", "border-r-0.5"] (.border side)
      (panelWeights.value side)) ∧
    (∀ corner, panelContext.vocabulary.SetsOnce .radius
      ["rounded-ss-[NaNpx]", "rounded-es-[-3px]", "rounded-e-sm"] (.corner corner)
      (panelRadii.value corner)) ∧
    ∀ classes ∈ [(panelContext.container panel none).classes, panelContext.pictureBox panel none],
      ["border-y-1", "border-r-0.5"] <:+: classes.entries := by
  obtain ⟨hpaddings, hwidths, hcorners⟩ := panelContext.sides_setOnce panel none
  have hstrokes : panel.layer.strokes ≠ [] := List.cons_ne_nil _ _
  rw [← padding_panel, ← strokeWeight_panel, ← cornerRadius_panel]
  exact ⟨(hpaddings rfl).2, (hwidths panelWeights hstrokes rfl).2, (hcorners panelRadii rfl).2,
    (hwidths panelWeights hstrokes rfl).1⟩

end UtilityMarkup
