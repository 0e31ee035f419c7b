import UtilityMarkup.Proofs.HexNotation
import UtilityMarkup.Utility.Context

/-!
# Priority of color names

Where the class of a solid paint gets its color and its name from. A design variable with a color
comes first; without one, the first pair for the color decides, among those of the imported palette,
then those of the user and then those of the vocabulary. Only then is the color written out.
-/

namespace UtilityMarkup

/-- The name in the first pair for a color, in whatever spelling the pair gives it. -/
def Palette.firstName? (pairs : List (String × String)) (hex : String) : Option String :=
  (pairs.find? fun pair => normalHex pair.1 = hex).map (·.2)

namespace Settings

def withColorNames (settings : Settings) (imported? : Option (List (String × String)))
    (custom standard : List (String × String)) : Settings :=
  { settings with
    imported? := imported?.map .ofPairs
    custom := .ofPairs custom
    vocabulary := { settings.vocabulary with colors := .ofPairs standard } }

lemma colorName?_withColorNames (settings : Settings)
    (imported? : Option (List (String × String))) (custom standard : List (String × String))
    (color : Color) :
    (settings.withColorNames imported? custom standard).colorName? color.baseHex =
      Palette.firstName? (imported?.getD [] ++ custom ++ standard) color.baseHex := by
  have hfind (pairs : List (String × String)) :
      (Palette.ofPairs pairs).find? color.baseHex = Palette.firstName? pairs color.baseHex := by
    rw [Palette.find?_ofPairs, Palette.normalHex_baseHex, Palette.firstName?]
  have happend (pairs more : List (String × String)) :
      Palette.firstName? (pairs ++ more) color.baseHex =
        (Palette.firstName? pairs color.baseHex).or (Palette.firstName? more color.baseHex) := by
    rw [Palette.firstName?, List.find?_append, Option.map_or]
    rfl
  rw [happend, happend, colorName?, overridingName?, withColorNames]
  cases imported? with
  | none => simp [hfind, Palette.firstName?]
  | some imported => simp [hfind]

end Settings

def namedColorClass (stem : Option String) (name : String) (color : Color) (opacity : Float) :
    String :=
  stemmed stem name ++
    if color.alpha * opacity != 1 then "/" ++ toString (color.fade opacity).percent else ""

def literalColorClass (stem : Option String) (hex : String) : String :=
  match stem with
  | some stem => stem ++ "-[" ++ hex ++ "]"
  | none => hex

/-- The paint is bound to a variable of this name and color. -/
def Resources.Binds (resources : Resources) (paint : SolidPaint) (name : String) (color : Color) :
    Prop :=
  ∃ id, paint.boundTo? = some id ∧ resources.designVariables[id]? = some ⟨name, some color⟩

namespace Context

variable {context : Context} {paint : SolidPaint} {name : String} {color : Color}

lemma boundColor?_eq_some_iff :
    context.boundColor? paint = some (name, color) ↔ context.resources.Binds paint name color := by
  simp only [boundColor?, Resources.color?, Resources.Binds, Option.bind_eq_bind,
    Option.bind_eq_some_iff, Option.pure_def, Option.some.injEq, Prod.mk.injEq]
  constructor
  · rintro ⟨id, hid, ⟨name', color'⟩, hvariable, color, hcolor, rfl, rfl⟩
    cases hcolor
    exact ⟨id, hid, hvariable⟩
  · rintro ⟨id, hid, hvariable⟩
    exact ⟨id, hid, _, hvariable, color, rfl, rfl, rfl⟩

lemma boundColor?_eq_none_iff :
    context.boundColor? paint = none ↔ ¬∃ name color, context.resources.Binds paint name color := by
  rw [Option.eq_none_iff_forall_ne_some]
  simp only [← boundColor?_eq_some_iff, Prod.forall, not_exists, ne_eq]

lemma solid_of_binds (h : context.resources.Binds paint name color) (stem : Option String) :
    context.solid paint stem =
      ⟨namedColorClass stem (variableToken name) color paint.opacity,
        some ⟨variableToken name, color.hex⟩⟩ := by
  rw [solid, boundColor?_eq_some_iff.mpr h]
  rfl

lemma solid_of_colorName? (hbound : ¬∃ name color, context.resources.Binds paint name color)
    (hname : context.settings.colorName? paint.color.baseHex = some name) (stem : Option String) :
    context.solid paint stem = ⟨namedColorClass stem name paint.color paint.opacity, none⟩ := by
  have hown : context.settings.colorName? paint.ownColor.baseHex = some name := hname
  rw [solid, boundColor?_eq_none_iff.mpr hbound]
  simp only [Settings.color, Option.map_none, Option.none_or, hown]
  rfl

lemma solid_of_unnamed (hbound : ¬∃ name color, context.resources.Binds paint name color)
    (hname : context.settings.colorName? paint.color.baseHex = none) (stem : Option String) :
    context.solid paint stem = ⟨literalColorClass stem paint.ownColor.hex, none⟩ := by
  have hown : context.settings.colorName? paint.ownColor.baseHex = none := hname
  rw [solid, boundColor?_eq_none_iff.mpr hbound]
  simp only [Settings.color, Option.map_none, Option.none_or, hown]
  rfl

/-- The color of a paint comes with it whatever the class is for. -/
lemma color?_solid_congr (paint : SolidPaint) (stem stem' : Option String) :
    (context.solid paint stem).color? = (context.solid paint stem').color? := by
  rw [solid, solid]
  cases context.boundColor? paint <;> rfl

lemma boundColors_eq (paints : List Paint) (stem : Option String) :
    context.boundColors paints =
      (paints.filterMap Paint.solid?).filterMap fun paint => (context.solid paint stem).color? :=
  List.filterMap_congr fun paint _ => color?_solid_congr paint none stem

/-- A bound variable with a color gives a solid paint its class, whatever names there are, and is
delivered with it. Otherwise nothing is delivered, and the class has the name from the first pair
for the color, or the hex of the color when there is no pair for it. Alpha shows in the class
exactly when it is not 1: as a percentage behind a name, as two more digits of a hex. -/
theorem solid_of_priority (resources : Resources) (settings : Settings)
    (imported? : Option (List (String × String))) (custom standard : List (String × String))
    (paint : SolidPaint) (stem : Option String) :
    let context : Context := ⟨resources, settings.withColorNames imported? custom standard⟩
    (∀ name color, resources.Binds paint name color →
      context.solid paint stem =
        ⟨namedColorClass stem (variableToken name) color paint.opacity,
          some ⟨variableToken name, color.hex⟩⟩) ∧
    ((¬∃ name color, resources.Binds paint name color) →
      match Palette.firstName? (imported?.getD [] ++ custom ++ standard) paint.color.baseHex with
      | some name =>
        context.solid paint stem = ⟨namedColorClass stem name paint.color paint.opacity, none⟩
      | none =>
        context.solid paint stem = ⟨literalColorClass stem paint.ownColor.hex, none⟩ ∧
          ∃ digits : List Char, paint.ownColor.hex = .ofList ('#' :: digits) ∧
            paint.color.baseHex.toList <+: '#' :: digits ∧
            digits.length = (if paint.color.alpha * paint.opacity != 1 then 8 else 6) ∧
            ∀ c ∈ digits, c ∈ Color.hexDigits) ∧
    ∀ paints : List Paint, context.boundColors paints =
      (paints.filterMap Paint.solid?).filterMap fun paint => (context.solid paint stem).color? := by
  intro context
  have hnames : context.settings.colorName? paint.color.baseHex =
      Palette.firstName? (imported?.getD [] ++ custom ++ standard) paint.color.baseHex :=
    settings.colorName?_withColorNames imported? custom standard paint.color
  refine ⟨fun name color hbinds => solid_of_binds hbinds stem, fun hbound => ?_,
    fun paints => boundColors_eq paints stem⟩
  split
  · rename_i name hname
    exact solid_of_colorName? hbound (hnames.trans hname) stem
  · rename_i hname
    refine ⟨solid_of_unnamed hbound (hnames.trans hname) stem, _, Color.hex_eq _, ?_,
      Color.length_digits _, fun _ => Color.mem_hexDigits_of_mem_digits⟩
    rw [Color.baseHex_eq, String.toList_ofList, List.cons_prefix_cons]
    exact ⟨rfl, List.prefix_append _ _⟩

-- The palette has no pair for the red, and the user's pair comes before that of the vocabulary.
example :
    let settings := ({} : Settings).withColorNames (some []) [(" ##EF4444", "danger")]
      [("#ef4444", "red-500")]
    let paint : SolidPaint := { color := .ofBytes 0xef 0x44 0x44, opacity := 0.5 }
    (solid ⟨{}, settings⟩ paint (some "bg")).text = "bg-danger/50" := by decide +kernel

end Context

end UtilityMarkup
