/-!
# Blank characters

A character is blank when it has the Unicode property White_Space. Trimming removes blanks at both
ends of a text, and the words of a text are the maximal runs without them. Main statement: trimming
leaves exactly the texts alone that neither start nor end with a blank.
-/

namespace UtilityMarkup.Text

def isBlank (c : Char) : Bool :=
  let n := c.toNat
  (0x9 ≤ n && n ≤ 0xd) || n == 0x20 || n == 0x85 || n == 0xa0 || n == 0x1680 ||
    (0x2000 ≤ n && n ≤ 0x200a) || n == 0x2028 || n == 0x2029 || n == 0x202f || n == 0x205f ||
    n == 0x3000

theorem isBlank_of_isWhitespace {c : Char} (h : c.isWhitespace = true) : isBlank c = true := by
  simp only [Char.isWhitespace, Bool.or_eq_true, decide_eq_true_eq] at h
  rcases h with ((rfl | rfl) | rfl) | rfl <;> rfl

/-! ## Trimming -/

def dropTrailing (text : List Char) : List Char :=
  (text.reverse.dropWhile isBlank).reverse

def trimChars (text : List Char) : List Char :=
  dropTrailing (text.dropWhile isBlank)

def trim (text : String) : String :=
  .ofList (trimChars text.toList)

theorem dropWhile_eq_self_iff {p : Char → Bool} {text : List Char} :
    text.dropWhile p = text ↔ ∀ c ∈ text.head?, p c = false := by
  cases text with
  | nil => simp
  | cons c rest =>
    by_cases h : p c
    · have hlen := (List.dropWhile_suffix p (l := rest)).length_le
      simp only [List.dropWhile_cons, h, if_true, List.head?_cons, Option.mem_some_iff, forall_eq',
        Bool.true_eq_false, iff_false]
      intro heq
      rw [heq, List.length_cons] at hlen
      exact absurd hlen (Nat.not_succ_le_self _)
    · simp [h]

theorem head?_dropWhile (p : Char → Bool) (text : List Char) :
    ∀ c ∈ (text.dropWhile p).head?, p c = false := by
  induction text with
  | nil => simp
  | cons c rest ih =>
    by_cases h : p c
    · simpa [List.dropWhile_cons, h] using ih
    · simp [h]

theorem dropTrailing_eq_self_iff {text : List Char} :
    dropTrailing text = text ↔ ∀ c ∈ text.getLast?, isBlank c = false := by
  rw [dropTrailing, List.reverse_eq_iff, dropWhile_eq_self_iff, List.head?_reverse]

theorem dropTrailing_isPrefix (text : List Char) : dropTrailing text <+: text := by
  simpa [dropTrailing] using
    List.reverse_prefix.mpr (List.dropWhile_suffix isBlank (l := text.reverse))

theorem getLast?_dropTrailing (text : List Char) :
    ∀ c ∈ (dropTrailing text).getLast?, isBlank c = false := by
  rw [dropTrailing, List.getLast?_reverse]
  exact head?_dropWhile isBlank text.reverse

theorem head?_dropTrailing {text : List Char} (h : ∀ c ∈ text.head?, isBlank c = false) :
    ∀ c ∈ (dropTrailing text).head?, isBlank c = false := by
  obtain ⟨cut, hcut⟩ := dropTrailing_isPrefix text
  intro c hc
  refine h c ?_
  rw [← hcut, List.head?_append, Option.mem_def.mp hc]
  rfl

/-- Trimming leaves exactly the texts alone that neither start nor end with a blank. -/
theorem trimChars_eq_self_iff {text : List Char} :
    trimChars text = text ↔
      (∀ c ∈ text.head?, isBlank c = false) ∧ ∀ c ∈ text.getLast?, isBlank c = false := by
  constructor
  · intro h
    have hlead := List.dropWhile_suffix isBlank (l := text)
    have hkeep : text.dropWhile isBlank = text := by
      refine hlead.eq_of_length_le ?_
      have := (dropTrailing_isPrefix (text.dropWhile isBlank)).length_le
      rwa [← trimChars, h] at this
    rw [trimChars, hkeep] at h
    exact ⟨dropWhile_eq_self_iff.mp hkeep, dropTrailing_eq_self_iff.mp h⟩
  · rintro ⟨hhead, hlast⟩
    rw [trimChars, dropWhile_eq_self_iff.mpr hhead, dropTrailing_eq_self_iff.mpr hlast]

theorem head?_trimChars (text : List Char) :
    ∀ c ∈ (trimChars text).head?, isBlank c = false :=
  head?_dropTrailing (head?_dropWhile isBlank text)

theorem getLast?_trimChars (text : List Char) :
    ∀ c ∈ (trimChars text).getLast?, isBlank c = false :=
  getLast?_dropTrailing _

@[simp] theorem trimChars_trimChars (text : List Char) :
    trimChars (trimChars text) = trimChars text :=
  trimChars_eq_self_iff.mpr ⟨head?_trimChars text, getLast?_trimChars text⟩

@[simp] theorem trim_trim (text : String) : trim (trim text) = trim text := by
  simp [trim]

theorem trim_eq_self_iff {text : String} :
    trim text = text ↔
      (∀ c ∈ text.toList.head?, isBlank c = false) ∧
        ∀ c ∈ text.toList.getLast?, isBlank c = false := by
  rw [trim, ← trimChars_eq_self_iff, ← String.toList_inj, String.toList_ofList]

/-! ## Words -/

/-- The stretches between blanks, empty ones included. -/
def stretches : List Char → List (List Char)
  | [] => [[]]
  | c :: rest =>
    if isBlank c then [] :: stretches rest
    else
      match stretches rest with
      | [] => [[c]]
      | stretch :: others => (c :: stretch) :: others

def words (text : String) : List String :=
  ((stretches text.toList).filter (!·.isEmpty)).map .ofList

def withoutBlanks (text : String) : String :=
  .ofList (text.toList.filter (!isBlank ·))

end UtilityMarkup.Text
