import UtilityMarkup.Proofs.Visits

/-!
# Replacement

A node in a document can be replaced by another one: the rest of the output stays as it is. This
holds where all the nodes around the place show what is inside them and have a tag with content. The
output around the place depends on the node in it only by whether that node is placed absolutely.
-/

namespace UtilityMarkup

/-- A document with a hole in the place of one node. -/
inductive Surroundings where
  | hole
  | child (layer : Layer) (before : List Node) (inner : Surroundings) (after : List Node)

namespace Surroundings

def plug : Surroundings → Node → Node
  | hole, node => node
  | child layer before inner after, node => .mk layer (before ++ inner.plug node :: after)

/-- What the node in the hole knows of the one around it. -/
def parentAt? (parent? : Option Parent) : Surroundings → Option Parent
  | hole => parent?
  | child layer _ inner _ => inner.parentAt? (some layer.asParent)

/-- Every node around the hole shows its children, and none has a tag without content. -/
def IsOpen (context : Context) : Surroundings → Node → Prop
  | hole, _ => True
  | child layer before inner after, node =>
    let whole := (child layer before inner after).plug node
    (Role.of whole).showsChildren ∧ (context.outline whole).tag ∉ Element.voidTags ∧
      inner.IsOpen context node

lemma isAbsolute_plug {surroundings : Surroundings} {node node' : Node}
    (h : node'.layer.layout.isAbsolute = node.layer.layout.isAbsolute) :
    (surroundings.plug node').layer.layout.isAbsolute =
      (surroundings.plug node).layer.layout.isAbsolute := by
  cases surroundings with
  | hole => exact h
  | child => rfl

end Surroundings

/-- The markup and the assets around those of a part of a document. -/
structure Envelope where
  markupBefore : String := ""
  markupAfter : String := ""
  assetsBefore : Assets := {}
  assetsAfter : Assets := {}

namespace Envelope

def Encloses (envelope : Envelope) (part whole : Output) : Prop :=
  whole.markup = envelope.markupBefore ++ part.markup ++ envelope.markupAfter ∧
    whole.assets.colors =
      envelope.assetsBefore.colors ++ part.assets.colors ++ envelope.assetsAfter.colors ∧
    whole.assets.pictures =
      envelope.assetsBefore.pictures ++ part.assets.pictures ++ envelope.assetsAfter.pictures

/-- Whatever node of the given placement compiles in the hole, to some markup, has the envelope
around its output. -/
def IsAround (envelope : Envelope) (context : Context) (parent? : Option Parent)
    (surroundings : Surroundings) (isAbsolute : Bool) : Prop :=
  ∀ (node : Node) (part : Output), node.layer.layout.isAbsolute = isAbsolute →
    context.compileAt ⟨surroundings.parentAt? parent?, node⟩ = .ok part → part.markup ≠ "" →
    ∃ whole, context.compileAt ⟨parent?, surroundings.plug node⟩ = .ok whole ∧
      envelope.Encloses part whole

def around (outer inner : Envelope) : Envelope where
  markupBefore := outer.markupBefore ++ inner.markupBefore
  markupAfter := inner.markupAfter ++ outer.markupAfter
  assetsBefore := outer.assetsBefore ++ inner.assetsBefore
  assetsAfter := inner.assetsAfter ++ outer.assetsAfter

lemma encloses_self (output : Output) : ({} : Envelope).Encloses output output := by
  simp [Encloses]

lemma Encloses.trans {inner outer : Envelope} {part middle whole : Output}
    (hinner : inner.Encloses part middle) (houter : outer.Encloses middle whole) :
    (outer.around inner).Encloses part whole := by
  obtain ⟨hmarkup, hcolors, hpictures⟩ := hinner
  obtain ⟨hmarkup', hcolors', hpictures'⟩ := houter
  refine ⟨?_, ?_, ?_⟩
  · simp [hmarkup', hmarkup, around, String.append_assoc]
  · simp [hcolors', hcolors, around]
  · simp [hpictures', hpictures, around]

lemma Encloses.markup_ne_empty {envelope : Envelope} {part whole : Output}
    (h : envelope.Encloses part whole) (hpart : part.markup ≠ "") : whole.markup ≠ "" := by
  rw [h.1]
  simp [hpart]

end Envelope

/-! ### One node around the hole -/

lemma exists_intercalate_around (before after : List String) :
    ∃ leading trailing, ∀ part,
      "\n".intercalate (before ++ part :: after) = leading ++ part ++ trailing := by
  have htrailing : ∃ trailing, ∀ part, "\n".intercalate (part :: after) = part ++ trailing := by
    cases after with
    | nil => exact ⟨"", by simp⟩
    | cons next rest =>
      exact ⟨"\n" ++ "\n".intercalate (next :: rest), by simp [String.append_assoc]⟩
  obtain ⟨trailing, htrailing⟩ := htrailing
  cases before with
  | nil => exact ⟨"", trailing, by simpa using htrailing⟩
  | cons first rest =>
    refine ⟨"\n".intercalate (first :: rest) ++ "\n", trailing, fun part => ?_⟩
    rw [String.intercalate_append_of_ne_nil (by simp) (by simp), htrailing, String.append_assoc,
      String.append_assoc, String.append_assoc]

lemma Fragment.exists_render_around {head : Element} (hcontent : head.content? = none)
    (htag : head.tag ∉ Element.voidTags) (assets : Assets) :
    ∃ opening closing, ∀ inside, inside ≠ "" →
      (Fragment.element head [] assets).render inside = opening ++ inside ++ closing := by
  have hvoid : head.isVoid = false := by simpa [Element.isVoid] using htag
  refine ⟨"<" ++ head.tag ++ String.join (head.allAttributes.map Attribute.render) ++ ">" ++ "\n",
    "\n" ++ "</" ++ head.tag ++ ">", fun inside hinside => ?_⟩
  have hsections : (Fragment.element head [] assets).render inside = head.render [inside] := by
    simp [render, hcontent, hinside]
  simp only [hsections, Element.render, hvoid, Bool.false_eq_true, if_false, reduceCtorEq,
    String.intercalate_singleton, String.append_assoc]

/-- The output of a node around those of its children, when one of them is taken as a part. -/
lemma Output.exists_envelope {head : Element} (hcontent : head.content? = none)
    (htag : head.tag ∉ Element.voidTags) (assets : Assets) (before after : List Output) :
    ∃ envelope : Envelope, ∀ part : Output, part.markup ≠ "" →
      envelope.Encloses part (.around (.element head [] assets) (before ++ part :: after)) := by
  obtain ⟨opening, closing, hrender⟩ := Fragment.exists_render_around hcontent htag assets
  obtain ⟨leading, trailing, hjoin⟩ :=
    exists_intercalate_around (before.map (·.markup)) (after.map (·.markup))
  refine ⟨⟨opening ++ leading, trailing ++ closing,
    ⟨before.flatMap (·.assets.pictures), before.flatMap (·.assets.colors)⟩,
    ⟨after.flatMap (·.assets.pictures) ++ assets.pictures,
      after.flatMap (·.assets.colors) ++ assets.colors⟩⟩, fun part hpart => ⟨?_, ?_, ?_⟩⟩
  · have hinside : leading ++ part.markup ++ trailing ≠ "" := by simp [hpart]
    rw [around, List.map_append, List.map_cons, hjoin, hrender _ hinside]
    simp only [String.append_assoc]
  · simp [colors_around, Fragment.assets, Fragment.assetsOf]
  · simp [pictures_around, Fragment.assets, Fragment.assetsOf]

namespace Context

variable {context : Context} {parent? : Option Parent} {layer : Layer}

/-- A node that shows its children generates an element without content of its own. -/
theorem generate_of_showsChildren {node : Node} (h : (Role.of node).showsChildren)
    (context : Context) (parent? : Option Parent) :
    ∃ head assets, context.generate node parent? = .ok (.element head [] assets) ∧
      head.tag = (context.outline node).tag ∧ head.content? = none := by
  cases hrole : Role.of node with
  | shape | icon | picture | componentInstance | text => simp [hrole, Role.showsChildren] at h
  | container | component | other =>
    simp only [generate, hrole]
    exact ⟨_, _, rfl, rfl, rfl⟩
  | pictureContainer =>
    simp only [generate, hrole, pictureContainerFragment]
    cases node.layer.picture? with
    | none => exact ⟨_, _, rfl, rfl, rfl⟩
    | some paint => exact ⟨_, _, rfl, rfl, rfl⟩

lemma role_congr {children children' : List Node} (hempty : children.isEmpty = children'.isEmpty) :
    Role.of (.mk layer children) = Role.of (.mk layer children') := by
  simp only [Role.of, Role.ofFrame, Node.children, hempty]
  rfl

/-- The fragment of a node that shows its children depends on them only by whether there are any
and whether one of them is placed absolutely. -/
theorem generate_congr {children children' : List Node}
    (hempty : children.isEmpty = children'.isEmpty)
    (habsolute : (Node.mk layer children).hasAbsoluteChild =
      (Node.mk layer children').hasAbsoluteChild)
    (hshown : (Role.of (.mk layer children)).showsChildren) :
    context.generate (.mk layer children) parent? =
      context.generate (.mk layer children') parent? := by
  have hrole : Role.of (.mk layer children) = Role.of (.mk layer children') := role_congr hempty
  have hplacement : Placement.of (.mk layer children) parent? =
      Placement.of (.mk layer children') parent? := by
    rw [Placement.of, habsolute]
    rfl
  have hcontainer : context.container (.mk layer children) parent? =
      context.container (.mk layer children') parent? := by
    rw [container, hplacement]
    rfl
  rw [hrole] at hshown
  simp only [generate, outline, Outline.of, hrole]
  cases hrole' : Role.of (.mk layer children') with
  | shape | icon | picture | componentInstance | text => simp [hrole', Role.showsChildren] at hshown
  | container | component =>
    simp only [containerFragment, hcontainer]
    rfl
  | pictureContainer =>
    simp only [pictureContainerFragment, pictureContainer, hcontainer]
    rfl
  | other => rfl

lemma inside_child {before after : List Node} {node : Node}
    (hshown : (Role.of (.mk layer (before ++ node :: after))).showsChildren) :
    (⟨parent?, .mk layer (before ++ node :: after)⟩ : Visit).inside =
      before.map (⟨some layer.asParent, ·⟩) ++ ⟨some layer.asParent, node⟩ ::
        after.map (⟨some layer.asParent, ·⟩) := by
  simp [Visit.inside, hshown, Node.children, Node.layer]

lemma isEmpty_replace (before after : List Node) (node node' : Node) :
    (before ++ node' :: after).isEmpty = (before ++ node :: after).isEmpty := by
  cases before <;> rfl

/-- Putting a node of the same placement in the place of a child leaves the fragment of the parent
as it is. -/
lemma generateAt_replace {before after : List Node} {node node' : Node}
    (habsolute : node'.layer.layout.isAbsolute = node.layer.layout.isAbsolute)
    (hshown : (Role.of (.mk layer (before ++ node' :: after))).showsChildren) :
    context.generateAt ⟨parent?, .mk layer (before ++ node' :: after)⟩ =
      context.generateAt ⟨parent?, .mk layer (before ++ node :: after)⟩ := by
  have hchild : (Node.mk layer (before ++ node' :: after)).hasAbsoluteChild =
      (Node.mk layer (before ++ node :: after)).hasAbsoluteChild := by
    simp [Node.hasAbsoluteChild, Node.children, habsolute]
  exact generate_congr (isEmpty_replace before after node node') hchild hshown

/-- A step outwards: a child in an open place can be replaced in the output of its parent. -/
lemma exists_envelope_child {before after : List Node} {node : Node} {whole : Output}
    (hshown : (Role.of (.mk layer (before ++ node :: after))).showsChildren)
    (htag : (context.outline (.mk layer (before ++ node :: after))).tag ∉ Element.voidTags)
    (h : context.compileAt ⟨parent?, .mk layer (before ++ node :: after)⟩ = .ok whole) :
    (∃ part, context.compileAt ⟨some layer.asParent, node⟩ = .ok part) ∧
      ∃ envelope : Envelope, envelope.IsAround context parent? (.child layer before .hole after)
        node.layer.layout.isAbsolute := by
  obtain ⟨_, -, outputs, houtputs, -⟩ := compileAt_eq_ok_iff.mp h
  rw [inside_child hshown, List.map_append, List.map_cons] at houtputs
  obtain ⟨outputsBefore, rest, rfl, hbefore, hrest⟩ := List.map_eq_append_iff.mp houtputs.symm
  obtain ⟨part, outputsAfter, rfl, hpart, hafter⟩ := List.map_eq_cons_iff.mp hrest
  obtain ⟨head, assets, hgenerate, hhead, hcontent⟩ :=
    generate_of_showsChildren hshown context parent?
  obtain ⟨envelope, henvelope⟩ :=
    Output.exists_envelope hcontent (hhead ▸ htag) assets outputsBefore outputsAfter
  refine ⟨⟨part, hpart.symm⟩, envelope, fun node' part' habsolute hpart' hmarkup => ?_⟩
  change context.compileAt ⟨some layer.asParent, node'⟩ = .ok part' at hpart'
  have hshown' : (Role.of (.mk layer (before ++ node' :: after))).showsChildren := by
    rwa [role_congr (isEmpty_replace before after node node')]
  have hfragment : context.generateAt ⟨parent?, .mk layer (before ++ node' :: after)⟩ =
      .ok (.element head [] assets) := by
    rw [generateAt_replace habsolute hshown', generateAt, hgenerate]
  have hinside : (⟨parent?, .mk layer (before ++ node' :: after)⟩ : Visit).inside.map
      context.compileAt = (outputsBefore ++ part' :: outputsAfter).map .ok := by
    rw [inside_child hshown', List.map_append, List.map_cons, ← hbefore, hpart', ← hafter,
      List.map_append, List.map_cons]
  exact ⟨_, compileAt_eq_ok_iff.mpr ⟨_, hfragment, _, hinside, rfl⟩, henvelope part' hmarkup⟩

theorem exists_envelope {surroundings : Surroundings} {node : Node} {whole : Output}
    (hopen : surroundings.IsOpen context node)
    (h : context.compileAt ⟨parent?, surroundings.plug node⟩ = .ok whole) :
    ∃ envelope : Envelope,
      envelope.IsAround context parent? surroundings node.layer.layout.isAbsolute := by
  induction surroundings generalizing parent? whole with
  | hole => exact ⟨{}, fun _ part _ hpart _ => ⟨part, hpart, Envelope.encloses_self part⟩⟩
  | child layer before inner after ih =>
    obtain ⟨hshown, htag, hinner⟩ := hopen
    obtain ⟨⟨part, hpart⟩, outer, houter⟩ := exists_envelope_child hshown htag h
    obtain ⟨envelope, henvelope⟩ := ih hinner hpart
    refine ⟨outer.around envelope, fun node' part' habsolute hpart' hmarkup => ?_⟩
    obtain ⟨middle, hmiddle, hencloses⟩ := henvelope node' part' habsolute hpart' hmarkup
    obtain ⟨whole', hwhole', hencloses'⟩ := houter (inner.plug node') middle
      (Surroundings.isAbsolute_plug habsolute) hmiddle (hencloses.markup_ne_empty hmarkup)
    exact ⟨whole', hwhole', hencloses.trans hencloses'⟩

/-- The markup and the assets around an open place of a document depend on the node in the place
only by whether it is placed absolutely: another node that compiles there, to some markup, has the
same markup and the same assets around its own. -/
theorem compile_plug (context : Context) (surroundings : Surroundings) (isAbsolute : Bool) :
    ∃ envelope : Envelope, ∀ (node : Node) (whole : Output),
      node.layer.layout.isAbsolute = isAbsolute → surroundings.IsOpen context node →
      context.compile (surroundings.plug node) = .ok whole →
      ∀ (node' : Node) (part : Output), node'.layer.layout.isAbsolute = isAbsolute →
        context.compileIn (surroundings.parentAt? none) node' = .ok part → part.markup ≠ "" →
        ∃ whole', context.compile (surroundings.plug node') = .ok whole' ∧
          envelope.Encloses part whole' := by
  -- Any one node that compiles in the place shows the envelope; without one, any envelope will do.
  by_cases hsome : ∃ node whole, node.layer.layout.isAbsolute = isAbsolute ∧
      surroundings.IsOpen context node ∧ context.compile (surroundings.plug node) = .ok whole
  · obtain ⟨node, whole, rfl, hopen, hwhole⟩ := hsome
    obtain ⟨envelope, henvelope⟩ := exists_envelope hopen hwhole
    exact ⟨envelope, fun _ _ _ _ _ => henvelope⟩
  · exact ⟨{}, fun node whole habsolute hopen hwhole =>
      absurd ⟨node, whole, habsolute, hopen, hwhole⟩ hsome⟩

end Context

/-! ### A page with a slot -/

/-- A page that has a title and a group with room for one node. -/
def slotPage : Surroundings :=
  .child { id := "page", name := "Page", kind := .frame }
    [.mk { id := "title", name := "Title", kind := .frame } []]
    (.child { id := "slot", name := "Slot", kind := .group } [] .hole []) []

def emptyBox : Node :=
  .mk { id := "box", name := "Box", kind := .frame } []

def inkDot : Node :=
  .mk { id := "dot", name := "Dot", kind := .ellipse
        fills := [.solid { color := ⟨0, 0, 0, 1⟩, boundTo? := some "ink" }] } []

def inkResources : Resources where
  designVariables := .ofList [("ink", (⟨"ink", some ⟨0, 0, 0, 1⟩⟩ : Variable))]
  drawings := .ofList [("dot", "<svg/>")]

lemma isOpen_slotPage : slotPage.IsOpen ⟨inkResources, {}⟩ emptyBox := by
  refine ⟨?_, ?_, ?_, ?_, trivial⟩ <;> decide +kernel

lemma compile_slotPage_emptyBox :
    Context.compile ⟨inkResources, {}⟩ (slotPage.plug emptyBox) =
      .ok { markup := "<div>\n<div></div>\n<div>\n<div></div>\n</div>\n</div>" } := by
  decide +kernel

lemma compileIn_inkDot :
    Context.compileIn ⟨inkResources, {}⟩ (slotPage.parentAt? none) inkDot =
      .ok { markup := "<svg class=\"text-ink\"/>"
            assets := { colors := [⟨"ink", "#000000"⟩] } } := by
  decide +kernel

/-- The ink dot takes the place of the empty box. -/
theorem compile_plug_inkDot :
    ∃ (envelope : Envelope) (part whole' : Output),
      Context.compileIn ⟨inkResources, {}⟩ (slotPage.parentAt? none) inkDot = .ok part ∧
      Context.compile ⟨inkResources, {}⟩ (slotPage.plug inkDot) = .ok whole' ∧
      envelope.Encloses part whole' := by
  obtain ⟨envelope, henvelope⟩ := Context.compile_plug ⟨inkResources, {}⟩ slotPage false
  obtain ⟨whole', hwhole', hencloses⟩ := henvelope emptyBox _ rfl isOpen_slotPage
    compile_slotPage_emptyBox inkDot _ rfl compileIn_inkDot (by decide)
  exact ⟨envelope, _, whole', compileIn_inkDot, hwhole', hencloses⟩

end UtilityMarkup
