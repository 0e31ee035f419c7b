import UtilityMarkup.Text.Blank

/-!
# Class lists

Utility classes in the order in which they are written. An entry is trimmed and never empty, but it
may hold several classes with blanks between them. Main statement: collecting texts one after the
other is the same as collecting them at once.
-/

namespace UtilityMarkup

@[ext] structure Classes where
  entries : List String
  clean : ∀ entry ∈ entries, entry ≠ "" ∧ Text.trim entry = entry

namespace Classes

def empty : Classes where
  entries := []
  clean := by simp

/-- Trims the given texts and drops those of which nothing remains. -/
def ofList (texts : List String) : Classes where
  entries := (texts.map Text.trim).filter (· ≠ "")
  clean := by
    intro entry h
    obtain ⟨htext, hne⟩ := List.mem_filter.mp h
    obtain ⟨text, _, rfl⟩ := List.mem_map.mp htext
    exact ⟨by simpa using hne, Text.trim_trim text⟩

instance : Append Classes where
  append a b :=
    { entries := a.entries ++ b.entries
      clean := fun entry h => (List.mem_append.mp h).elim (a.clean entry) (b.clean entry) }

def push (classes : Classes) (text : String) : Classes :=
  classes ++ ofList [text]

def size (classes : Classes) : Nat :=
  classes.entries.length

def isEmpty (classes : Classes) : Bool :=
  classes.entries.isEmpty

/-- The class is one of the words of an entry. -/
def contains (classes : Classes) (name : String) : Bool :=
  classes.entries.any fun entry => (Text.words entry).contains name

/-- The value of a class attribute. -/
def text (classes : Classes) : String :=
  " ".intercalate classes.entries

@[simp] theorem entries_append (a b : Classes) : (a ++ b).entries = a.entries ++ b.entries := rfl

@[simp] theorem entries_ofList (texts : List String) :
    (ofList texts).entries = (texts.map Text.trim).filter (· ≠ "") := rfl

theorem append_assoc (a b c : Classes) : a ++ b ++ c = a ++ (b ++ c) := by
  apply Classes.ext
  simp

@[simp] theorem append_empty (classes : Classes) : classes ++ empty = classes := by
  apply Classes.ext
  simp [empty]

theorem mem_entries_ofList_iff {texts : List String} {entry : String} :
    entry ∈ (ofList texts).entries ↔ (∃ text ∈ texts, Text.trim text = entry) ∧ entry ≠ "" := by
  simp

theorem ofList_append (texts more : List String) :
    ofList (texts ++ more) = ofList texts ++ ofList more := by
  apply Classes.ext
  simp

theorem ofList_cons (text : String) (texts : List String) :
    ofList (text :: texts) = ofList [text] ++ ofList texts := by
  rw [← ofList_append, List.singleton_append]

theorem entries_infix {texts more : List String} (h : texts <:+: more) :
    (ofList texts).entries <:+: (ofList more).entries := by
  obtain ⟨before, after, rfl⟩ := h
  rw [ofList_append, ofList_append]
  exact ⟨_, _, rfl⟩

theorem ofList_entries (classes : Classes) : ofList classes.entries = classes := by
  apply Classes.ext
  have htrim : classes.entries.map Text.trim = classes.entries := by
    rw [List.map_congr_left (g := id) (fun entry h => (classes.clean entry h).2), List.map_id]
  simp only [ofList, htrim, List.filter_eq_self]
  exact fun entry h => by simpa using (classes.clean entry h).1

end Classes

end UtilityMarkup
