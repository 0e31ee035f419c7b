import UtilityMarkup.Proofs.ColorPriority
import UtilityMarkup.Proofs.ColorWords
import UtilityMarkup.Proofs.DeliverySources

/-!
# Drawings that take on the text color

The application draws shapes and icons. A drawing takes its color from the text around it when its
shapes have one bound paint between them. A second bound paint keeps the drawing as it is, even one
of the same color.
-/

namespace UtilityMarkup

lemma Role.isShape_of_shape {node : Node} (h : Role.of node = .shape) : node.layer.kind.isShape := by
  by_contra hkind
  rw [Role.of, if_neg hkind] at h
  cases hof : node.layer.kind <;> simp [hof, Role.ofFrame] at h
  split at h
  · split at h <;> cases h
  · split at h <;> cases h

namespace Node

mutual

/-- The fills of the shapes under a node, in document order. A shape hides what is below it. -/
def shapeFills : Node → List Paint
  | .mk layer children => if layer.kind.isShape then layer.fills else shapeFillsOf children

def shapeFillsOf : List Node → List Paint
  | [] => []
  | node :: nodes => shapeFills node ++ shapeFillsOf nodes

end

lemma shapeFillsOf_eq_flatMap (nodes : List Node) :
    shapeFillsOf nodes = nodes.flatMap shapeFills := by
  induction nodes with
  | nil => rfl
  | cons node nodes ih => rw [shapeFillsOf, ih, List.flatMap_cons]

lemma shapeFills_of_shape {node : Node} (h : Role.of node = .shape) :
    node.shapeFills = node.layer.fills := by
  obtain ⟨layer, children⟩ := node
  have hkind : layer.kind.isShape := Role.isShape_of_shape h
  rw [shapeFills, if_pos hkind]
  rfl

/-- The size classes of a drawing. A shape keeps the size that it is drawn in. -/
def drawnSize (node : Node) (parent? : Option Parent) : List String :=
  let layer := node.layer
  match Role.of node with
  | .icon =>
    [widthClass layer.layout.widthSizing ("w-[" ++ Number.literal layer.box.width ++ "px]"),
      heightClass layer.layout.heightSizing (inFlex parent?)
        ("h-[" ++ Number.literal layer.box.height ++ "px]")]
  | _ => []

end Node

/-! ### Bound colors -/

lemma Paint.solid?_eq_some_iff {paint : Paint} {solid : SolidPaint} :
    paint.solid? = some solid ↔ paint = .solid solid := by
  cases paint <;> simp [Paint.solid?]

namespace Context

variable {context : Context} {node : Node} {parent? : Option Parent} {markup : String}
  {color : NamedColor} {paints : List Paint}

lemma boundColors_append (paints more : List Paint) :
    context.boundColors (paints ++ more) =
      context.boundColors paints ++ context.boundColors more := by
  simp [boundColors]

lemma boundColors_flatMap {α : Type} (items : List α) (paints : α → List Paint) :
    context.boundColors (items.flatMap paints) =
      items.flatMap fun item => context.boundColors (paints item) := by
  induction items with
  | nil => rfl
  | cons item items ih => rw [List.flatMap_cons, boundColors_append, ih, List.flatMap_cons]

theorem mem_boundColors_iff :
    color ∈ context.boundColors paints ↔
      ∃ paint name value, .solid paint ∈ paints ∧ context.resources.Binds paint name value ∧
        color = ⟨variableToken name, value.hex⟩ := by
  simp only [boundColors, List.mem_filterMap, Paint.solid?_eq_some_iff, color?_solid,
    Option.map_eq_some_iff, Prod.exists, boundColor?_eq_some_iff]
  constructor
  · rintro ⟨paint, ⟨_, hmem, rfl⟩, name, value, hbinds, rfl⟩
    exact ⟨paint, name, value, hmem, hbinds, rfl⟩
  · rintro ⟨paint, name, value, hmem, hbinds, rfl⟩
    exact ⟨paint, ⟨_, hmem, rfl⟩, name, value, hbinds, rfl⟩

theorem iconColors_eq_boundColors (node : Node) :
    context.iconColors node = context.boundColors node.shapeFills := by
  induction node using Node.induction with
  | mk layer children ih =>
    rw [iconColors, Node.shapeFills]
    split
    · rfl
    · rw [iconColorsOf_eq_flatMap, Node.shapeFillsOf_eq_flatMap, boundColors_flatMap,
        List.flatMap_congr ih]

lemma isWord_of_mem_boundColors (h : color ∈ context.boundColors paints) :
    Text.IsWord ("text-" ++ color.name) := by
  obtain ⟨paint, name, value, -, -, rfl⟩ := mem_boundColors_iff.mp h
  have hstem : Text.Unbroken "text-" := by decide
  exact ⟨by simp, hstem.append (unbroken_variableToken name)⟩

lemma isWord_of_mem_inkClasses {text : String} (h : text ∈ inkClasses (context.boundColors paints)) :
    Text.IsWord text := by
  unfold inkClasses at h
  split at h
  · rename_i color hcolors
    obtain rfl := List.mem_singleton.mp h
    have hmem : color ∈ context.boundColors paints := by simp [hcolors]
    exact isWord_of_mem_boundColors hmem
  · cases h

/-! ### Drawn nodes -/

/-- The markup of a drawing, recolored and with its classes. -/
def drawn (context : Context) (node : Node) (parent? : Option Parent) (markup : String) : String :=
  let colors := context.boundColors node.shapeFills
  Markup.injectClasses (inked colors markup)
    (Classes.ofList (node.drawnSize parent? ++ inkClasses colors)).text

lemma generate_drawn (hrole : Role.of node = .shape ∨ Role.of node = .icon)
    (hdrawing : context.resources.drawings[node.layer.id]? = some markup) :
    context.generate node parent? =
      .ok (.raw (context.drawn node parent? markup)
        { colors := context.boundColors node.shapeFills }) := by
  have hdrawn : context.drawing node.layer = .ok markup := by
    rw [drawing, Resources.drawing, hdrawing]
    rfl
  rcases hrole with hshape | hicon
  · have hfills := Node.shapeFills_of_shape hshape
    have htext : (Classes.ofList (inkClasses (context.boundColors node.layer.fills))).text =
        " ".intercalate (inkClasses (context.boundColors node.layer.fills)) := by
      rw [Classes.text, Classes.entries_ofList_of_isWord fun _ => isWord_of_mem_inkClasses]
    simp only [generate, hshape, shapeFragment, hdrawn, drawn, Node.drawnSize, hfills,
      List.nil_append, htext]
    rfl
  · simp only [generate, hicon, iconFragment, hdrawn, drawn, Node.drawnSize, icon,
      iconColors_eq_boundColors]
    rfl

lemma compileIn_drawn (hrole : Role.of node = .shape ∨ Role.of node = .icon)
    (hdrawing : context.resources.drawings[node.layer.id]? = some markup) :
    context.compileIn parent? node =
      .ok { markup := context.drawn node parent? markup
            assets := { colors := context.boundColors node.shapeFills } } := by
  have hhidden : (Role.of node).showsChildren = false := by
    rcases hrole with hshape | hicon
    · rw [hshape]
      rfl
    · rw [hicon]
      rfl
  exact compileIn_of_hidden hhidden (generate_drawn hrole hdrawing)

/-- A shape or an icon compiles to its drawing and the bound colors of its shapes, one for each bound
paint. With a single bound paint the drawing is recolored, and its root has the text color of that
name among its classes. Otherwise the drawing keeps its colors and only gets its size. -/
theorem compileIn_inked (parent? : Option Parent)
    (hrole : Role.of node = .shape ∨ Role.of node = .icon)
    (hdrawing : context.resources.drawings[node.layer.id]? = some markup) :
    let colors := context.boundColors node.shapeFills
    (∀ color, colors = [color] →
      let classes := Classes.ofList (node.drawnSize parent? ++ ["text-" ++ color.name])
      "text-" ++ color.name ∈ classes.entries ∧
      context.compileIn parent? node =
        .ok { markup := Markup.injectClasses (Markup.useCurrentColor markup color.hex) classes.text
              assets := { colors := colors } }) ∧
    (colors.length ≠ 1 →
      context.compileIn parent? node =
        .ok { markup := Markup.injectClasses markup (Classes.ofList (node.drawnSize parent?)).text
              assets := { colors := colors } }) := by
  have hword : ∀ color ∈ context.boundColors node.shapeFills, Text.IsWord ("text-" ++ color.name) :=
    fun _ => isWord_of_mem_boundColors
  rw [compileIn_drawn hrole hdrawing, drawn]
  generalize context.boundColors node.shapeFills = colors at hword
  refine ⟨?_, fun hcount => ?_⟩
  · rintro color rfl
    exact ⟨Classes.mem_entries_ofList_of_isWord (hword color (by simp)) (by simp), rfl⟩
  · match colors, hcount with
    | [], _ => simp only [inked, inkClasses, List.append_nil]
    | [_], hcount => exact absurd rfl hcount
    | _ :: _ :: _, _ => simp only [inked, inkClasses, List.append_nil]

end Context

/-! ### Dots of one color -/

def inkDots (count : Nat) : Node :=
  .mk { id := "dots", name := "Dots", kind := .frame, isAsset := true }
    (.replicate count (.mk { id := "dot", name := "Dot", kind := .ellipse
                             fills := [.solid { color := ⟨0, 0, 0, 1⟩, boundTo? := some "ink" }] }
      []))

def dotsDrawing : String := "<svg><path fill=\"#000000\"/></svg>"

def dotsContext : Context where
  resources :=
    { designVariables := .ofList [("ink", (⟨"ink", some ⟨0, 0, 0, 1⟩⟩ : Variable))]
      drawings := .ofList [("dots", dotsDrawing)] }
  settings := {}

def ink : NamedColor := ⟨"ink", "#000000"⟩

def inkedDot : Output where
  markup := "<svg class=\"w-[0px] h-[0px] text-ink\"><path fill=\"currentColor\"/></svg>"
  assets := { colors := [ink] }

theorem compileIn_inked_dot :
    Role.of (inkDots 1) = .icon ∧
    dotsContext.resources.drawings[(inkDots 1).layer.id]? = some dotsDrawing ∧
    dotsContext.boundColors (inkDots 1).shapeFills = [ink] ∧
    dotsContext.compileIn none (inkDots 1) = .ok inkedDot := by
  have hrole : Role.of (inkDots 1) = .icon := by decide +kernel
  have hdrawing : dotsContext.resources.drawings[(inkDots 1).layer.id]? = some dotsDrawing := by
    decide +kernel
  have hcolors : dotsContext.boundColors (inkDots 1).shapeFills = [ink] := by decide +kernel
  obtain ⟨-, hcompile⟩ := (Context.compileIn_inked none (.inr hrole) hdrawing).1 ink hcolors
  have hmarkup : Markup.injectClasses (Markup.useCurrentColor dotsDrawing ink.hex)
      (Classes.ofList ((inkDots 1).drawnSize none ++ ["text-" ++ ink.name])).text =
        inkedDot.markup := by
    decide +kernel
  rw [hmarkup, hcolors] at hcompile
  exact ⟨hrole, hdrawing, hcolors, hcompile⟩

/-- Two dots of the same color are drawn as they are. -/
theorem inkDots_keep_their_color :
    Role.of (inkDots 2) = .icon ∧
    dotsContext.resources.drawings[(inkDots 2).layer.id]? = some dotsDrawing ∧
    dotsContext.iconColors (inkDots 2) = [ink, ink] ∧
    dotsContext.compile (inkDots 2) =
      .ok { markup := "<svg class=\"w-[0px] h-[0px]\"><path fill=\"#000000\"/></svg>"
            assets := { colors := [ink, ink] } } ∧
    dotsContext.compile (inkDots 2) ≠
      .ok { inkedDot with assets := { colors := [ink, ink] } } := by
  refine ⟨by decide +kernel, by decide +kernel, by decide +kernel, by decide +kernel, ?_⟩
  decide +kernel

end UtilityMarkup
