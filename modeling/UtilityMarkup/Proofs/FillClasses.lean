import UtilityMarkup.Proofs.UtilityBlocks

/-!
# Classes of fills

Fills that need no utility have classes of their own. Such a class never looks like a utility of the
layer, with one exception: the class of a color is made from the name of the color, which is free.
-/

namespace UtilityMarkup

/-- Several paints, or a gradient that cannot be put into classes. -/
def NeedsUtility (fills : List Paint) : Prop :=
  2 ≤ fills.length ∨ ∃ gradient, fills = [.gradient gradient] ∧ gradient.isComplex = true

instance : DecidablePred NeedsUtility
  | [] | [.solid _] | [.picture _] => isFalse (by simp [NeedsUtility])
  | [.gradient gradient] => decidable_of_iff (gradient.isComplex = true) (by simp [NeedsUtility])
  | _ :: _ :: _ => isTrue (.inl (by simp))

namespace Context

variable {context : Context} {fills : List Paint}

/-! ### Fills that need no utility -/

/-- The classes of fills that need no utility. -/
inductive FillClass (context : Context) : List Paint → String → Prop
  | solid (paint : SolidPaint) {stem : String} (h : stem ∈ ["bg", "text"]) :
    FillClass context [.solid paint] (context.solid paint (some stem)).text
  | direction (gradient : Gradient) : FillClass context [.gradient gradient] gradient.directionClass
  | stopColor {gradient : Gradient} {role : StopRole} {stop : Stop}
    (h : (role, stop) ∈ gradient.stopRoles) :
    FillClass context [.gradient gradient] (context.settings.color stop.color none (some role.stem))
  | stopPosition {gradient : Gradient} {role : StopRole} {stop : Stop}
    (h : (role, stop) ∈ gradient.stopRoles) :
    FillClass context [.gradient gradient] (role.stem ++ "-" ++ percentText stop.position)
  | clip {gradient : Gradient} {text : String} (h : text ∈ ["w-fit", clipToText]) :
    FillClass context [.gradient gradient] text

lemma fillClass_of_mem_gradientClasses {gradient : Gradient} {text : String}
    (h : text ∈ context.gradientClasses gradient) :
    FillClass context [.gradient gradient] text := by
  rcases List.mem_cons.mp h with rfl | hstop
  · exact .direction gradient
  · obtain ⟨⟨role, stop⟩, hrole, htext⟩ := List.mem_flatMap.mp hstop
    unfold stopClasses at htext
    dsimp only at htext
    split at htext
    · obtain rfl := List.mem_singleton.mp htext
      exact .stopColor hrole
    · rcases List.mem_pair.mp htext with rfl | rfl
      · exact .stopColor hrole
      · exact .stopPosition hrole

lemma fillStyling_of_not_needsUtility (context : Context) (layer : Layer)
    (h : ¬NeedsUtility fills) :
    (context.fillStyling layer fills).sheet = "" ∧
      ∀ entry ∈ (context.fillStyling layer fills).classes.entries,
        ∃ text, FillClass context fills text ∧ Text.trim text = entry := by
  match fills, h with
  | [], _ => exact ⟨rfl, by simp [fillStyling, Backdrop.ofFills, Classes.empty]⟩
  | [.picture paint], _ => exact ⟨rfl, by simp [fillStyling, Backdrop.ofFills, Classes.empty]⟩
  | [.solid paint], _ =>
    refine ⟨rfl, fun entry hentry => ?_⟩
    obtain ⟨⟨text, htext, htrim⟩, -⟩ := Classes.mem_entries_ofList_iff.mp hentry
    obtain rfl := List.mem_singleton.mp htext
    refine ⟨_, .solid paint ?_, htrim⟩
    split <;> simp
  | [.gradient gradient], h =>
    have hsimple : gradient.isComplex = false := by
      by_contra hcomplex
      exact h (.inr ⟨gradient, rfl, by simpa using hcomplex⟩)
    rw [fillStyling, Backdrop.ofFills, hsimple]
    refine ⟨rfl, fun entry hentry => ?_⟩
    obtain ⟨⟨text, htext, htrim⟩, -⟩ := Classes.mem_entries_ofList_iff.mp hentry
    refine ⟨text, ?_, htrim⟩
    rcases List.mem_append.mp htext with hgradient | hclip
    · exact fillClass_of_mem_gradientClasses hgradient
    · split at hclip
      · exact .clip hclip
      · cases hclip
  | first :: second :: others, h => exact absurd (.inl (by simp)) h

/-! ### Classes that look like utilities -/

/-- The name of the color of a paint, or of a stop of a gradient. -/
inductive NamesColor (context : Context) : List Paint → String → Prop
  | bound {paint : SolidPaint} {name : String} {color : Color}
    (h : context.boundColor? paint = some (name, color)) :
    NamesColor context [.solid paint] (variableToken name)
  | solid {paint : SolidPaint} {name : String} (hbound : context.boundColor? paint = none)
    (h : context.settings.colorName? paint.color.baseHex = some name) :
    NamesColor context [.solid paint] name
  | stop {gradient : Gradient} {role : StopRole} {stop : Stop} {name : String}
    (hrole : (role, stop) ∈ gradient.stopRoles)
    (h : context.settings.colorName? stop.color.baseHex = some name) :
    NamesColor context [.gradient gradient] name

end Context

/-- The class of a color with this name, with or without a percentage of alpha. -/
def IsNamedClass (name text : String) : Prop :=
  ∃ stem : String, text = stem ++ "-" ++ name ∨
    ∃ percent : Nat, text = stem ++ "-" ++ name ++ "/" ++ toString percent

/-- A word that ends in another character than the names of utilities. -/
structure EndsApart (text : String) : Prop where
  word : Text.IsWord text
  apart : ∃ c, text.toList.getLast? = some c ∧ c ≠ 't' ∧ c ≠ 'g'

lemma EndsApart.append {front text : String} (hfront : Text.Unbroken front) (h : EndsApart text) :
    EndsApart (front ++ text) where
  word :=
    { ne_empty := fun hempty => h.word.ne_empty (String.append_eq_empty_iff.mp hempty).2
      unbroken := hfront.append h.word.unbroken }
  apart := by
    obtain ⟨c, hlast, hc⟩ := h.apart
    refine ⟨c, ?_, hc⟩
    rw [String.toList_append, List.getLast?_append, hlast, Option.some_or]

lemma not_isBackgroundName_of_endsApart {layer : Layer} {text name : String} (h : EndsApart text)
    (hname : name ∈ Text.words (Text.trim text)) : ¬layer.IsBackgroundName name := by
  rw [h.word.trim_eq, h.word.words_eq] at hname
  obtain rfl := List.mem_singleton.mp hname
  obtain ⟨c, hlast, ht, hg⟩ := h.apart
  intro hutility
  rcases Layer.getLast?_of_isBackgroundName hutility with hend | hend
  · exact ht (Option.some.inj (hlast.symm.trans hend))
  · exact hg (Option.some.inj (hlast.symm.trans hend))

/-- The class of a color is made from its name, or from its hex when it has none. -/
lemma Settings.color_cases (settings : Settings) (color : Color) (variableName : Option String)
    {stem : String} (hstem : Text.Unbroken stem) :
    (∃ name, (variableName.map variableToken).or (settings.colorName? color.baseHex) = some name ∧
      IsNamedClass name (settings.color color variableName (some stem))) ∨
    EndsApart (settings.color color variableName (some stem)) := by
  unfold Settings.color
  split
  · rename_i name hname
    refine .inl ⟨name, hname, stem, ?_⟩
    cases color.isTranslucent with
    | false => exact .inl (by simp [stemmed])
    | true => exact .inr ⟨color.percent, by simp [stemmed, String.append_assoc]⟩
  · have hbracket : EndsApart "]" :=
      ⟨⟨by decide, by decide⟩, ']', rfl, by decide⟩
    have hopening : Text.Unbroken "-[" := by decide
    exact .inr (hbracket.append ((hstem.append hopening).append color.unbroken_hex))

lemma Gradient.endsApart_directionClass (gradient : Gradient) :
    EndsApart gradient.directionClass := by
  have hspace : EndsApart "/srgb" :=
    ⟨⟨by decide, by decide⟩, 'b', rfl, by decide⟩
  have hdirection :
      Text.Unbroken (if gradient.shape = .angular then "bg-conic-" else "bg-linear-") := by
    split <;> decide
  exact hspace.append (hdirection.append (Number.unbroken_toString _))

lemma StopRole.unbroken_stem (role : StopRole) : Text.Unbroken role.stem := by
  cases role <;> decide

lemma endsApart_percentText (position : Float) : EndsApart (percentText position) := by
  have hsign : EndsApart "%" :=
    ⟨⟨by decide, by decide⟩, '%', rfl, by decide⟩
  exact hsign.append (Number.unbroken_literal _)

namespace Context

variable {context : Context} {layer : Layer} {fills : List Paint}

lemma solid_cases (context : Context) (paint : SolidPaint) {stem : String}
    (hstem : Text.Unbroken stem) :
    (∃ name, context.NamesColor [.solid paint] name ∧
      IsNamedClass name (context.solid paint (some stem)).text) ∨
    EndsApart (context.solid paint (some stem)).text := by
  rw [solid]
  cases hbound : context.boundColor? paint with
  | some bound =>
    refine (context.settings.color_cases _ (some bound.1) hstem).imp_left ?_
    rintro ⟨name, hname, hclass⟩
    cases hname
    exact ⟨_, .bound hbound, hclass⟩
  | none =>
    refine (context.settings.color_cases paint.ownColor none hstem).imp_left ?_
    rintro ⟨name, hname, hclass⟩
    exact ⟨name, .solid hbound hname, hclass⟩

/-- Among the classes of fills, only that of a color with a name can look like a utility. -/
lemma exists_namesColor {text name : String} (h : FillClass context fills text)
    (hname : name ∈ Text.words (Text.trim text)) (hutility : layer.IsBackgroundName name) :
    ∃ colorName, context.NamesColor fills colorName ∧ IsNamedClass colorName text := by
  cases h with
  | @solid paint stem hstem =>
    have hunbroken : Text.Unbroken stem := by
      rcases List.mem_pair.mp hstem with rfl | rfl <;> decide
    exact (context.solid_cases paint hunbroken).resolve_right fun hapart =>
      not_isBackgroundName_of_endsApart hapart hname hutility
  | direction gradient =>
    exact absurd hutility
      (not_isBackgroundName_of_endsApart gradient.endsApart_directionClass hname)
  | @stopColor gradient role stop hrole =>
    rcases context.settings.color_cases stop.color none role.unbroken_stem with
      ⟨colorName, hcolor, hclass⟩ | hapart
    · exact ⟨colorName, .stop hrole hcolor, hclass⟩
    · exact absurd hutility (not_isBackgroundName_of_endsApart hapart hname)
  | @stopPosition gradient role stop hrole =>
    have hdash : Text.Unbroken "-" := by decide
    have hapart := (endsApart_percentText stop.position).append (role.unbroken_stem.append hdash)
    exact absurd hutility (not_isBackgroundName_of_endsApart hapart hname)
  | clip hclip =>
    -- These words do end in a `t`, so it takes their whole endings to tell them from utilities.
    have hends : ∀ word ∈ Text.words (Text.trim text),
        ¬("_gradient".toList <:+ word.toList ∨ "_bg".toList <:+ word.toList) := by
      rcases List.mem_pair.mp hclip with rfl | rfl <;> decide +kernel
    exact absurd (Layer.suffix_of_isBackgroundName hutility) (hends name hname)

end Context

end UtilityMarkup
