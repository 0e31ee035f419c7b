import UtilityMarkup.Markup.Assets

/-!
# Fragments

The markup of one node before it is written out: an element with the fragments nested in it, or
markup that was made elsewhere.
-/

namespace UtilityMarkup

inductive AttributeValue where
  /-- The attribute counts by being there. -/
  | present
  | text (value : String)
deriving DecidableEq, Repr

structure Attribute where
  name : String
  value : AttributeValue
deriving DecidableEq, Repr

structure Element where
  tag : String
  attributes : List Attribute := []
  className : String := ""
  /-- Stylesheet text that the element needs. -/
  sheet : String := ""
  content? : Option String := none
deriving DecidableEq, Repr

inductive Fragment where
  | raw (markup : String) (assets : Assets)
  | element (head : Element) (nested : List Fragment) (assets : Assets)
deriving Repr

namespace Fragment

def ownAssets : Fragment → Assets
  | raw _ assets => assets
  | element _ _ assets => assets

/-- Stylesheet text of the fragment itself. -/
def sheet : Fragment → String
  | raw _ _ => ""
  | element head _ _ => head.sheet

mutual

/-- The assets of nested fragments and then those of the fragment itself. -/
def assets : Fragment → Assets
  | raw _ own => own
  | element _ nested own => assetsOf nested ++ own

def assetsOf : List Fragment → Assets
  | [] => {}
  | fragment :: fragments => fragment.assets ++ assetsOf fragments

end

theorem pictures_assetsOf (fragments : List Fragment) :
    (assetsOf fragments).pictures = fragments.flatMap (·.assets.pictures) := by
  induction fragments with
  | nil => rfl
  | cons fragment fragments ih => simp [assetsOf, ih]

theorem colors_assetsOf (fragments : List Fragment) :
    (assetsOf fragments).colors = fragments.flatMap (·.assets.colors) := by
  induction fragments with
  | nil => rfl
  | cons fragment fragments ih => simp [assetsOf, ih]

end Fragment

end UtilityMarkup
