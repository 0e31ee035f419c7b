import Std.Data.ExtTreeMap
import UtilityMarkup.Text.Ascii

/-!
# Palettes

Names for exact colors. A color is given by its hex in any spelling: with or without `#`, in any
case, with blanks around it. Main statement: normalizing a spelling twice changes nothing, so the
keys of a palette are their own normal forms.
-/

namespace UtilityMarkup

namespace Palette

/-- The form `#rrggbb` of a spelling: one `#` and lower-case digits. -/
def normalChars (hex : List Char) : List Char :=
  '#' :: ((Text.trimChars hex).dropWhile (· == '#')).map Char.toLower

def normalHex (hex : String) : String :=
  .ofList (normalChars hex.toList)

theorem toLower_eq_hash_iff (c : Char) : c.toLower = '#' ↔ c = '#' :=
  Text.toLower_cases (motive := fun c lower => lower = '#' ↔ c = '#') (by decide)
    (fun _ _ => .rfl) c

theorem trimChars_normalChars (hex : List Char) :
    Text.trimChars (normalChars hex) = normalChars hex := by
  refine Text.trimChars_eq_self_iff.mpr ⟨by simp [normalChars]; decide, ?_⟩
  obtain ⟨hashes, hsuffix⟩ := List.dropWhile_suffix (· == '#') (l := Text.trimChars hex)
  intro c hc
  match hdigits : (Text.trimChars hex).dropWhile (· == '#') with
  | [] =>
    simp only [normalChars, hdigits, List.map_nil, List.getLast?_singleton,
      Option.mem_some_iff] at hc
    subst hc
    decide
  | d :: rest =>
    obtain ⟨e, he, rfl⟩ : ∃ e, (d :: rest).getLast? = some e ∧ e.toLower = c := by
      rw [normalChars, hdigits, List.map_cons, List.getLast?_cons_cons, ← List.map_cons,
        List.getLast?_map] at hc
      simpa using hc
    rw [Text.isBlank_toLower]
    refine Text.getLast?_trimChars hex e ?_
    rw [← hsuffix, hdigits, List.getLast?_append, he]
    rfl

theorem normalChars_normalChars (hex : List Char) :
    normalChars (normalChars hex) = normalChars hex := by
  have hdigits : (normalChars hex).dropWhile (· == '#') =
      ((Text.trimChars hex).dropWhile (· == '#')).map Char.toLower := by
    rw [normalChars, List.dropWhile_cons_of_pos (by rfl)]
    refine Text.dropWhile_eq_self_iff.mpr ?_
    rw [List.head?_map]
    intro c hc
    obtain ⟨d, hd, rfl⟩ := Option.map_eq_some_iff.mp hc
    have := Text.head?_dropWhile (· == '#') _ d hd
    simpa [toLower_eq_hash_iff] using this
  rw [normalChars, trimChars_normalChars, hdigits, List.map_map, normalChars]
  exact congrArg _ (List.map_congr_left fun c _ => Text.toLower_toLower c)

@[simp] theorem normalHex_normalHex (hex : String) : normalHex (normalHex hex) = normalHex hex := by
  simp [normalHex, normalChars_normalChars]

end Palette

/-- Names by normalized hex. -/
structure Palette where
  names : Std.ExtTreeMap String String
  normal : ∀ hex ∈ names, Palette.normalHex hex = hex

namespace Palette

def empty : Palette where
  names := ∅
  normal := by simp

def find? (palette : Palette) (hex : String) : Option String :=
  palette.names[normalHex hex]?

/-- Names a color, whether or not it had a name. -/
def insert (palette : Palette) (hex name : String) : Palette where
  names := palette.names.insert (normalHex hex) name
  normal := by
    intro key hkey
    rcases Std.ExtTreeMap.mem_insert.mp hkey with heq | hmem
    · rw [← Std.LawfulEqCmp.eq_of_compare heq, normalHex_normalHex]
    · exact palette.normal key hmem

/-- Names a color that has no name yet. -/
def insertNew (palette : Palette) (hex name : String) : Palette where
  names := palette.names.insertIfNew (normalHex hex) name
  normal := by
    intro key hkey
    rcases Std.ExtTreeMap.mem_insertIfNew.mp hkey with heq | hmem
    · rw [← Std.LawfulEqCmp.eq_of_compare heq, normalHex_normalHex]
    · exact palette.normal key hmem

/-- Of two names for one color the earlier stays. -/
def ofPairs (pairs : List (String × String)) : Palette :=
  pairs.foldl (fun palette (hex, name) => palette.insertNew hex name) empty

/-- Takes the name of a color away, and returns it. -/
def take? (palette : Palette) (hex : String) : Option String × Palette :=
  (palette.find? hex,
    { names := palette.names.erase (normalHex hex)
      normal := fun key hkey => palette.normal key (Std.ExtTreeMap.mem_of_mem_erase hkey) })

def size (palette : Palette) : Nat :=
  palette.names.size

def isEmpty (palette : Palette) : Bool :=
  palette.names.isEmpty

/-- Hexes and names, by rising hex. -/
def rows (palette : Palette) : List (String × String) :=
  palette.names.toList

@[simp] theorem find?_empty (hex : String) : empty.find? hex = none := by
  simp [empty, find?]

theorem find?_insert (palette : Palette) (hex other name : String) :
    (palette.insert hex name).find? other =
      if normalHex hex = normalHex other then some name else palette.find? other := by
  simp [insert, find?, Std.ExtTreeMap.getElem?_insert]

theorem find?_insertNew (palette : Palette) (hex other name : String) :
    (palette.insertNew hex name).find? other =
      (palette.find? other).or (if normalHex hex = normalHex other then some name else none) := by
  simp only [insertNew, find?, Std.ExtTreeMap.getElem?_insertIfNew,
    Std.LawfulEqCmp.compare_eq_iff_eq]
  by_cases h : normalHex hex = normalHex other
  · rw [h]
    by_cases hmem : normalHex other ∈ palette.names <;> simp [hmem]
  · simp [h]

theorem find?_take? (palette : Palette) (hex other : String) :
    (palette.take? hex).2.find? other =
      if normalHex hex = normalHex other then none else palette.find? other := by
  simp [take?, find?, Std.ExtTreeMap.getElem?_erase]

theorem find?_foldl_insertNew (pairs : List (String × String)) (palette : Palette) (hex : String) :
    (pairs.foldl (fun palette (hex, name) => palette.insertNew hex name) palette).find? hex =
      (palette.find? hex).or
        ((pairs.find? fun pair => normalHex pair.1 = normalHex hex).map (·.2)) := by
  induction pairs generalizing palette with
  | nil => simp
  | cons pair pairs ih =>
    rw [List.foldl_cons, ih, find?_insertNew, List.find?_cons, Option.or_assoc]
    by_cases h : normalHex pair.1 = normalHex hex <;> simp [h]

/-- The first pair with a color decides its name. -/
theorem find?_ofPairs (pairs : List (String × String)) (hex : String) :
    (ofPairs pairs).find? hex =
      (pairs.find? fun pair => normalHex pair.1 = normalHex hex).map (·.2) := by
  simp [ofPairs, find?_foldl_insertNew]

end Palette

end UtilityMarkup
