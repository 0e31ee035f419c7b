import UtilityMarkup.Document.Node
import UtilityMarkup.Utility.BoxSize

/-!
# Flex layout

How a layer behaves in a flex parent, and how it lays out its own children.
-/

namespace UtilityMarkup

/-- A layer that does not grow keeps its size in a flex parent. -/
def flexItem (layout : Layout) (parent? : Option Parent) : String :=
  if layout.grow == 1 then "flex-1" else if inFlex parent? then "shrink-0" else ""

namespace PrimaryAlign

def className : PrimaryAlign → String
  | start => "justify-start"
  | center => "justify-center"
  | finish => "justify-end"
  | spaceBetween => "justify-between"

end PrimaryAlign

namespace CounterAlign

def className : CounterAlign → String
  | start => "items-start"
  | center => "items-center"
  | finish => "items-end"
  | baseline => "items-baseline"

end CounterAlign

namespace Vocabulary

def flexContainer (vocabulary : Vocabulary) (layout : Layout) : List String :=
  if layout.isFlex then
    ["flex",
      if layout.flow = .row then "flex-row" else "flex-col",
      layout.primaryAlign.className,
      layout.counterAlign.className,
      if layout.spreadsLines then "content-between" else "",
      if layout.wraps then "flex-wrap" else "",
      vocabulary.number .spacing (some "gap") layout.gap,
      (layout.lineGap?.map (vocabulary.number .spacing (some "gap-y"))).getD ""]
  else []

end Vocabulary

end UtilityMarkup
