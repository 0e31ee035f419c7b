import UtilityMarkup.Proofs.BackgroundUtilities

/-!
# Gradients written as classes

A linear or angular gradient that is not shifted and has at most three stops is written as classes:
its direction, and then every stop once, by rising position. The role of a stop follows from its
place among them. Any other gradient has no class but that of its utility.
-/

namespace UtilityMarkup

namespace Number

/-- The total order of bit patterns. A number with a sign comes before one without. Of two numbers
with the same sign the smaller magnitude comes first, or last when the sign is negative. -/
def TotallyOrdered (x y : Float) : Prop :=
  if x.toBits < 0x8000000000000000 then y.toBits < 0x8000000000000000 ∧ x.toBits ≤ y.toBits
  else y.toBits < 0x8000000000000000 ∨ y.toBits ≤ x.toBits

lemma totalRank_le_iff {x y : Float} : totalRank x ≤ totalRank y ↔ TotallyOrdered x y := by
  have hx : x.toBits.toNat < 2 ^ 64 := x.toBits.toNat_lt
  have hy : y.toBits.toNat < 2 ^ 64 := y.toBits.toNat_lt
  simp only [totalRank, TotallyOrdered, UInt64.lt_iff_toNat_lt, UInt64.le_iff_toNat_le,
    UInt64.reduceToNat]
  split <;> split <;> omega

lemma totalRank_eq_iff {x y : Float} : totalRank x = totalRank y ↔ x.toBits = y.toBits := by
  have hx : x.toBits.toNat < 2 ^ 64 := x.toBits.toNat_lt
  have hy : y.toBits.toNat < 2 ^ 64 := y.toBits.toNat_lt
  simp only [totalRank, ← UInt64.toNat_inj, UInt64.lt_iff_toNat_lt, UInt64.reduceToNat]
  split <;> split <;> omega

end Number

/-! ### Order of stops -/

namespace Gradient

/-- The order by which stops are sorted. -/
def comesFirst (a b : Stop) : Bool :=
  Number.totalRank a.position ≤ Number.totalRank b.position

lemma comesFirst_trans (a b c : Stop) (hab : comesFirst a b = true) (hbc : comesFirst b c = true) :
    comesFirst a c = true := by
  simp only [comesFirst, decide_eq_true_eq] at *
  omega

lemma comesFirst_total (a b : Stop) : (comesFirst a b || comesFirst b a) = true := by
  simp only [comesFirst, Bool.or_eq_true, decide_eq_true_eq]
  omega

lemma sortedStops_eq (gradient : Gradient) :
    gradient.sortedStops = gradient.stops.mergeSort comesFirst := rfl

lemma perm_sortedStops (gradient : Gradient) : gradient.sortedStops.Perm gradient.stops :=
  List.mergeSort_perm _ _

lemma pairwise_sortedStops (gradient : Gradient) :
    gradient.sortedStops.Pairwise fun a b => Number.TotallyOrdered a.position b.position := by
  have hpairwise := List.pairwise_mergeSort comesFirst_trans comesFirst_total gradient.stops
  refine hpairwise.imp ?_
  intro a b hab
  exact Number.totalRank_le_iff.mp (of_decide_eq_true hab)

lemma filter_sortedStops (gradient : Gradient) (bits : UInt64) :
    gradient.sortedStops.filter (·.position.toBits = bits) =
      gradient.stops.filter (·.position.toBits = bits) := by
  have hpairwise : (gradient.stops.filter (·.position.toBits = bits)).Pairwise
      fun a b => comesFirst a b = true := by
    refine List.pairwise_filter.mpr (List.pairwise_of_forall fun a b ha hb => ?_)
    have hbits : a.position.toBits = b.position.toBits :=
      (of_decide_eq_true ha).trans (of_decide_eq_true hb).symm
    exact decide_eq_true (Int.le_of_eq (Number.totalRank_eq_iff.mpr hbits))
  have hsublist := List.sublist_mergeSort comesFirst_trans comesFirst_total hpairwise
    List.filter_sublist
  have hfilter := hsublist.filter (·.position.toBits = bits)
  rw [List.filter_filter, List.filter_congr fun stop _ => Bool.and_self _, ← sortedStops_eq]
    at hfilter
  have hlength := (gradient.perm_sortedStops.filter (·.position.toBits = bits)).length_eq
  exact (hfilter.eq_of_length hlength.symm).symm

end Gradient

/-! ### Roles of stops -/

namespace StopRole

/-- The role of a stop from its place among the stops in order. -/
def ofPlace (place count : Nat) : StopRole :=
  if place = 0 then first else if place + 1 = count then last else middle

/-- A stop has a class for its position unless it is the first at 0 or the last at 1. -/
def writesPosition : StopRole → Float → Bool
  | first, position => !(0 == position)
  | middle, _ => true
  | last, position => !(1 == position)

end StopRole

namespace Gradient

variable {gradient : Gradient}

/-- The gradient can be put into classes. -/
structure FitsClasses (gradient : Gradient) : Prop where
  shape : gradient.shape = .linear ∨ gradient.shape = .angular
  unshifted : (gradient.transform.dx == 0) = true ∧ (gradient.transform.dy == 1) = true
  count : gradient.stops.length ≤ 3

lemma fitsClasses_iff : gradient.FitsClasses ↔ gradient.isComplex = false := by
  constructor
  · rintro ⟨hshape, ⟨hdx, hdy⟩, hcount⟩
    rcases hshape with hshape | hshape <;>
      simp [isComplex, Transform.isTranslated, hshape, hdx, hdy, bne, hcount]
  · intro h
    cases hshape : gradient.shape with
    | radial | diamond => simp [isComplex, hshape] at h
    | linear | angular =>
      simp only [isComplex, hshape, Transform.isTranslated, bne, Bool.or_eq_false_iff,
        Bool.not_eq_false', decide_eq_false_iff_not, Nat.not_lt] at h
      exact ⟨by simp [hshape], h.1, h.2⟩

/-- Of at most three stops none is without a role. -/
lemma stopRoles_eq_map (h : gradient.stops.length ≤ 3) :
    gradient.stopRoles = gradient.sortedStops.zipIdx.map fun (stop, place) =>
      (.ofPlace place gradient.sortedStops.length, stop) := by
  rw [← gradient.perm_sortedStops.length_eq] at h
  rw [stopRoles]
  match gradient.sortedStops, h with
  | [], _ | [_], _ | [_, _], _ | [_, _, _], _ => rfl
  | _ :: _ :: _ :: _ :: _, h =>
    simp only [List.length_cons] at h
    omega

end Gradient

/-! ### Classes of stops -/

lemma Settings.exists_color_eq (settings : Settings) (color : Color) (variableName : Option String)
    (stem : String) :
    ∃ value, settings.color color variableName (some stem) = stem ++ "-" ++ value := by
  unfold Settings.color
  split
  · rename_i name hname
    exact ⟨_, by rw [stemmed, String.append_assoc]⟩
  · exact ⟨"[" ++ color.hex ++ "]", by simp [String.ext_iff]⟩

namespace StopRole

lemma isWord_stem_append (role : StopRole) : Text.IsWord (role.stem ++ "-") := by
  cases role <;> exact ⟨by decide, by decide⟩

lemma isWord_positionClass (role : StopRole) (position : Float) :
    Text.IsWord (role.stem ++ "-" ++ percentText position) :=
  ((endsApart_percentText position).append role.isWord_stem_append.unbroken).word

end StopRole

namespace Context

variable {context : Context} {layer : Layer} {gradient : Gradient}

/-- What a stop adds to a class list. The name of a color may end in blanks, which are cut off. -/
def stopEntries (context : Context) (role : StopRole) (stop : Stop) : List String :=
  Text.trim (context.settings.color stop.color none (some role.stem)) ::
    if role.writesPosition stop.position then [role.stem ++ "-" ++ percentText stop.position]
    else []

lemma stopClasses_eq (context : Context) (role : StopRole) (stop : Stop) :
    context.stopClasses role stop =
      context.settings.color stop.color none (some role.stem) ::
        if role.writesPosition stop.position then [role.stem ++ "-" ++ percentText stop.position]
        else [] := by
  have hwrites : role.impliedPosition?.any (· == stop.position) =
      !role.writesPosition stop.position := by
    cases role <;> simp [StopRole.impliedPosition?, StopRole.writesPosition]
  rw [stopClasses, hwrites]
  cases role.writesPosition stop.position <;> rfl

lemma map_trim_stopClasses (context : Context) (role : StopRole) (stop : Stop) :
    (context.stopClasses role stop).map Text.trim = context.stopEntries role stop := by
  have hposition := (role.isWord_positionClass stop.position).trim_eq
  rw [stopClasses_eq, stopEntries, List.map_cons]
  split
  · rw [List.map_singleton, hposition]
  · rfl

lemma trim_ne_empty_of_mem_stopClasses {role : StopRole} {stop : Stop} {text : String}
    (h : text ∈ context.stopClasses role stop) : Text.trim text ≠ "" := by
  rw [stopClasses_eq, List.mem_cons] at h
  rcases h with rfl | h
  · obtain ⟨value, hcolor⟩ := context.settings.exists_color_eq stop.color none role.stem
    rw [hcolor]
    exact Text.trim_append_ne_empty role.isWord_stem_append value
  · split at h
    · obtain rfl := List.mem_singleton.mp h
      exact Text.trim_append_ne_empty role.isWord_stem_append _
    · cases h

end Context

/-! ### Classes of gradients -/

/-- What text needs besides the classes of a gradient. -/
def Layer.clipEntries (layer : Layer) : List String :=
  if layer.kind = .text then ["w-fit", clipToText] else []

lemma Layer.trim_of_mem_clipEntries {layer : Layer} {text : String} (h : text ∈ layer.clipEntries) :
    Text.trim text = text ∧ text ≠ "" := by
  unfold clipEntries at h
  split at h
  · rcases List.mem_pair.mp h with rfl | rfl <;> exact ⟨by decide +kernel, by decide⟩
  · cases h

lemma Layer.map_trim_clipEntries (layer : Layer) :
    layer.clipEntries.map Text.trim = layer.clipEntries :=
  (List.map_congr_left fun _ htext => (trim_of_mem_clipEntries htext).1).trans (List.map_id _)

lemma Layer.trim_ne_empty_of_mem_clipEntries {layer : Layer} {text : String}
    (h : text ∈ layer.clipEntries) : Text.trim text ≠ "" := by
  obtain ⟨htrim, hne⟩ := trim_of_mem_clipEntries h
  rwa [htrim]

namespace Context

variable {context : Context} {layer : Layer} {gradient : Gradient}

/-- The entries of all stops in order, each with the role of its place. -/
def placedStopEntries (context : Context) (gradient : Gradient) : List String :=
  let stops := gradient.sortedStops
  stops.zipIdx.flatMap fun (stop, place) => context.stopEntries (.ofPlace place stops.length) stop

lemma map_trim_gradientClasses (context : Context) (h : gradient.stops.length ≤ 3) :
    (context.gradientClasses gradient).map Text.trim =
      gradient.directionClass :: context.placedStopEntries gradient := by
  rw [gradientClasses, List.map_cons, gradient.endsApart_directionClass.word.trim_eq,
    List.map_flatMap, Gradient.stopRoles_eq_map h, List.flatMap_map]
  simp only [map_trim_stopClasses, placedStopEntries]

lemma trim_ne_empty_of_mem_gradientClasses {text : String}
    (h : text ∈ context.gradientClasses gradient) : Text.trim text ≠ "" := by
  rcases List.mem_cons.mp h with rfl | hstop
  · have hword := gradient.endsApart_directionClass.word
    rw [hword.trim_eq]
    exact hword.ne_empty
  · obtain ⟨⟨role, stop⟩, -, htext⟩ := List.mem_flatMap.mp hstop
    exact trim_ne_empty_of_mem_stopClasses htext

lemma fillStyling_of_fitsClasses (context : Context) (layer : Layer) (h : gradient.FitsClasses) :
    (context.fillStyling layer [.gradient gradient]).sheet = "" ∧
      (context.fillStyling layer [.gradient gradient]).classes.entries =
        gradient.directionClass :: context.placedStopEntries gradient ++ layer.clipEntries := by
  have hstyling : context.fillStyling layer [.gradient gradient] =
      { classes := .ofList (context.gradientClasses gradient ++ layer.clipEntries) } := by
    simp [fillStyling, Backdrop.ofFills, Gradient.fitsClasses_iff.mp h, Layer.clipEntries]
  have hkept : ∀ text ∈ context.gradientClasses gradient ++ layer.clipEntries,
      Text.trim text ≠ "" := by
    intro text htext
    rcases List.mem_append.mp htext with hgradient | hclip
    · exact trim_ne_empty_of_mem_gradientClasses hgradient
    · exact Layer.trim_ne_empty_of_mem_clipEntries hclip
  rw [hstyling]
  refine ⟨rfl, ?_⟩
  rw [Classes.entries_ofList_of_trim_ne_empty hkept, List.map_append,
    context.map_trim_gradientClasses h.count, layer.map_trim_clipEntries]

lemma fillStyling_of_not_fitsClasses (context : Context) (layer : Layer)
    (h : ¬gradient.FitsClasses) :
    (∀ background, context.resources.HasBackground layer background →
      (context.fillStyling layer [.gradient gradient]).classes.entries =
        (layer.utilityName ++ "_gradient") :: layer.clipEntries) ∧
    ((¬∃ background, context.resources.HasBackground layer background) →
      (context.fillStyling layer [.gradient gradient]).classes.entries = []) := by
  have hcomplex : gradient.isComplex = true := by
    simpa [Gradient.fitsClasses_iff] using h
  have hneeds : NeedsUtility [.gradient gradient] := .inr ⟨gradient, rfl, hcomplex⟩
  refine ⟨fun background hbackground => ?_, fun hnone => ?_⟩
  · have hname : Text.IsWord (layer.utilityName ++ "_gradient") :=
      Layer.isWord_of_isBackgroundName (.inl rfl)
    have hstyling : (context.fillStyling layer [.gradient gradient]).classes =
        .ofList ((layer.utilityName ++ "_gradient") :: layer.clipEntries) := by
      simp [fillStyling, Backdrop.ofFills, hcomplex, registered,
        background?_eq_some_iff.mpr hbackground, Layer.clipEntries]
    have hkept : ∀ text ∈ (layer.utilityName ++ "_gradient") :: layer.clipEntries,
        Text.trim text ≠ "" :=
      List.forall_mem_cons.mpr
        ⟨hname.trim_eq.symm ▸ hname.ne_empty, fun _ => Layer.trim_ne_empty_of_mem_clipEntries⟩
    rw [hstyling, Classes.entries_ofList_of_trim_ne_empty hkept, List.map_cons, hname.trim_eq,
      layer.map_trim_clipEntries]
  · rw [fillStyling_of_no_background hneeds hnone]
    rfl

/-- A layer with a gradient for its only fill. If the gradient fits into classes, they are its
direction and then those of every stop, by rising position and with ties in their old order, and
nothing is registered. The first stop has the role `from`, the last of several `to`, one between
them `via`, and only `from` at 0 and `to` at 1 go without a class for their position. Any other
gradient adds the class of its utility, or none when the application has no background for the
layer. Text has the classes that clip the background to its glyphs behind them. -/
theorem fillStyling_gradient (context : Context) (hfills : layer.fills = [.gradient gradient]) :
    let styling := context.fillStyling layer layer.fills
    let stops := gradient.sortedStops
    stops.Perm gradient.stops ∧
    stops.Pairwise (fun a b => Number.TotallyOrdered a.position b.position) ∧
    (∀ bits, stops.filter (·.position.toBits = bits) =
      gradient.stops.filter (·.position.toBits = bits)) ∧
    (gradient.FitsClasses →
      styling.sheet = "" ∧
      styling.classes.entries =
        gradient.directionClass ::
          (stops.zipIdx.flatMap fun (stop, place) =>
            context.stopEntries (.ofPlace place stops.length) stop) ++ layer.clipEntries) ∧
    (¬gradient.FitsClasses →
      (∀ background, context.resources.HasBackground layer background →
        styling.classes.entries = (layer.utilityName ++ "_gradient") :: layer.clipEntries) ∧
      ((¬∃ background, context.resources.HasBackground layer background) →
        styling.classes.entries = [])) := by
  intro styling stops
  have hstyling : styling = context.fillStyling layer [.gradient gradient] := by
    rw [← hfills]
  rw [hstyling]
  exact ⟨gradient.perm_sortedStops, gradient.pairwise_sortedStops, gradient.filter_sortedStops,
    context.fillStyling_of_fitsClasses layer, context.fillStyling_of_not_fitsClasses layer⟩

end Context

/-! ### A heading with a gradient -/

def blueEnd : Stop := ⟨1, .ofBytes 59 130 246⟩

def whiteMiddle : Stop := ⟨0.5, .ofBytes 255 255 255⟩

def redMiddle : Stop := ⟨0.5, .ofBytes 239 68 68⟩

def headingGradient : Gradient where
  shape := .angular
  stops := [blueEnd, whiteMiddle, redMiddle]

lemma sortedStops_headingGradient :
    headingGradient.sortedStops = [whiteMiddle, redMiddle, blueEnd] := by
  have hwhiteRed : Gradient.comesFirst whiteMiddle redMiddle = true := by decide +kernel
  have hblueWhite : Gradient.comesFirst blueEnd whiteMiddle = false := by decide +kernel
  have hblueRed : Gradient.comesFirst blueEnd redMiddle = false := by decide +kernel
  simp [Gradient.sortedStops_eq, headingGradient, List.mergeSort,
    List.MergeSort.Internal.splitInTwo, hwhiteRed, hblueWhite, hblueRed]

def heading : Layer where
  id := "heading"
  name := "Heading"
  kind := .text
  fills := [.gradient headingGradient]

def headingSettings : Settings where
  custom := .ofPairs [("#ffffff", "paper "), ("#ef4444", "rust"), ("#3b82f6", "sky")]

theorem fillStyling_gradient_heading :
    heading.fills = [.gradient headingGradient] ∧
    headingGradient.FitsClasses ∧
    (Context.fillStyling ⟨{}, headingSettings⟩ heading heading.fills).classes.entries =
      [headingGradient.directionClass, "from-paper", "from-50%", "via-rust", "via-50%", "to-sky",
        "w-fit", "text-transparent bg-clip-text"] := by
  have hfills : heading.fills = [.gradient headingGradient] := rfl
  have hfits : headingGradient.FitsClasses := ⟨by decide, by decide +kernel, by decide⟩
  obtain ⟨-, -, -, hclasses, -⟩ := Context.fillStyling_gradient ⟨{}, headingSettings⟩ hfills
  refine ⟨hfills, hfits, (hclasses hfits).2.trans ?_⟩
  rw [sortedStops_headingGradient]
  generalize headingGradient.directionClass = direction
  refine congrArg (direction :: ·) ?_
  decide +kernel

end UtilityMarkup
