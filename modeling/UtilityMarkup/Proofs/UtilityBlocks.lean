import UtilityMarkup.Proofs.Reading
import UtilityMarkup.Proofs.Words
import UtilityMarkup.Utility.Backdrop

/-!
# Utility blocks

The names of stylesheet utilities and the blocks that define them. A name made from that of a layer
is a single word, and so is a class as it stands. A block with such a name tells its name and its
background.
-/

namespace UtilityMarkup

/-! ### Names of utilities -/

namespace Layer

lemma unbroken_utilityName (layer : Layer) : Text.Unbroken layer.utilityName :=
  Text.unbroken_lowerCase (Text.unbroken_withoutBlanks layer.name)

lemma isWord_utilityName_append (layer : Layer) {ending : String} (h : Text.IsWord ending) :
    Text.IsWord (layer.utilityName ++ ending) where
  ne_empty hempty := h.ne_empty (String.append_eq_empty_iff.mp hempty).2
  unbroken := layer.unbroken_utilityName.append h.unbroken

/-- The name of the utility for the given fills, when they need one. -/
def backgroundName (layer : Layer) (fills : List Paint) : String :=
  layer.utilityName ++ if 2 ≤ fills.length then "_bg" else "_gradient"

/-- The name has the form of a utility for the layer. -/
def IsBackgroundName (layer : Layer) (name : String) : Prop :=
  name = layer.utilityName ++ "_gradient" ∨ name = layer.utilityName ++ "_bg"

lemma isBackgroundName_backgroundName (layer : Layer) (fills : List Paint) :
    layer.IsBackgroundName (layer.backgroundName fills) := by
  unfold backgroundName
  split
  · exact .inr rfl
  · exact .inl rfl

lemma isWord_of_isBackgroundName {layer : Layer} {name : String}
    (h : layer.IsBackgroundName name) : Text.IsWord name := by
  rcases h with rfl | rfl
  · exact layer.isWord_utilityName_append ⟨by decide, by decide⟩
  · exact layer.isWord_utilityName_append ⟨by decide, by decide⟩

lemma suffix_of_isBackgroundName {layer : Layer} {name : String}
    (h : layer.IsBackgroundName name) :
    "_gradient".toList <:+ name.toList ∨ "_bg".toList <:+ name.toList := by
  rcases h with rfl | rfl
  · exact .inl (String.toList_append ▸ List.suffix_append _ _)
  · exact .inr (String.toList_append ▸ List.suffix_append _ _)

lemma getLast?_of_isBackgroundName {layer : Layer} {name : String}
    (h : layer.IsBackgroundName name) :
    name.toList.getLast? = some 't' ∨ name.toList.getLast? = some 'g' := by
  rcases h with rfl | rfl <;> simp [String.toList_append, List.getLast?_append]

lemma backgroundName_eq_iff {layer layer' : Layer} {fills fills' : List Paint} :
    layer.backgroundName fills = layer'.backgroundName fills' ↔
      layer.utilityName = layer'.utilityName ∧ (2 ≤ fills.length ↔ 2 ≤ fills'.length) := by
  have hends (stem stem' : String) : stem ++ "_bg" ≠ stem' ++ "_gradient" := by
    intro h
    have hlast := congrArg (fun name : String => name.toList.getLast?) h
    simp [String.toList_append, List.getLast?_append] at hlast
  unfold backgroundName
  by_cases h : 2 ≤ fills.length <;> by_cases h' : 2 ≤ fills'.length
  · simp [h, h', String.append_left_inj]
  · simp [h, h', hends]
  · simp [h, h', (hends _ _).symm]
  · simp [h, h', String.append_left_inj]

end Layer

/-! ### Blocks -/

lemma toList_utilityBlock (name background : String) :
    (utilityBlock name background).toList = "@utility ".toList ++ (name.toList ++
      (" \x7b background-image: ".toList ++ (background.toList ++ "; \x7d".toList))) := by
  simp [utilityBlock]

/-- The name of a block goes up to the first blank behind its keyword. -/
lemma takeWhile_utilityBlock {name : String} (hname : Text.IsWord name) (background : String) :
    ((utilityBlock name background).toList.drop 9).takeWhile (!Text.isBlank ·) = name.toList := by
  have hkept : ∀ c ∈ name.toList, (!Text.isBlank c) = true := by
    intro c hc
    rw [hname.unbroken c hc, Bool.not_false]
  rw [toList_utilityBlock, List.drop_left' (by rfl)]
  refine (Markup.takeWhile_append_of_stop hkept ?_).1
  intro c hc
  obtain rfl : ' ' = c := by simpa using hc
  rfl

lemma utilityBlock_inj {name name' background background' : String} (hname : Text.IsWord name)
    (hname' : Text.IsWord name') :
    utilityBlock name background = utilityBlock name' background' ↔
      name = name' ∧ background = background' := by
  constructor
  · intro h
    have hnames : name.toList = name'.toList := by
      rw [← takeWhile_utilityBlock hname background, h, takeWhile_utilityBlock hname']
    obtain rfl := String.toList_inj.mp hnames
    rw [← String.toList_inj, toList_utilityBlock, toList_utilityBlock, List.append_cancel_left_eq,
      List.append_cancel_left_eq, List.append_cancel_left_eq, List.append_cancel_right_eq,
      String.toList_inj] at h
    exact ⟨rfl, h⟩
  · rintro ⟨rfl, rfl⟩
    rfl

lemma utilityBlock_ne_empty (name background : String) : utilityBlock name background ≠ "" := by
  simp [utilityBlock]

end UtilityMarkup
