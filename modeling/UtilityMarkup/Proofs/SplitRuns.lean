import UtilityMarkup.Proofs.ClassSources

/-!
# Split runs

Cutting the only run of a text layer into pieces changes nothing about the layer itself: the pieces
agree on all typography, and on the fills unless these differ from themselves. The text of the layer
moves into the pieces.
-/

namespace UtilityMarkup

namespace TextRun

def withCharacters (run : TextRun) (characters : String) : TextRun :=
  { run with characters := characters }

lemma fills_withCharacters (run : TextRun) (characters : String) :
    (run.withCharacters characters).fills = run.fills := rfl

end TextRun

lemma Classes.shared_of_forall_eq {lists : List Classes} {classes : Classes} (hne : lists ≠ [])
    (h : ∀ list ∈ lists, list = classes) : shared lists = classes := by
  obtain ⟨first, others, rfl⟩ := List.exists_cons_of_ne_nil hne
  obtain ⟨rfl, hothers⟩ := List.forall_mem_cons.mp h
  have hall : ∀ entry ∈ first.entries,
      others.all (·.entries.contains entry) = true := by
    intro entry hentry
    rw [List.all_eq_true]
    intro list hlist
    rw [hothers list hlist]
    exact List.contains_iff_mem.mpr hentry
  rw [shared, List.filter_eq_self.mpr hall, ofList_entries]

namespace Layer

variable {layer : Layer} {run : TextRun} {pieces : List String}

/-- The layer with these pieces of text, all in the style of the run. -/
def inPieces (layer : Layer) (run : TextRun) (pieces : List String) : Layer :=
  { layer with runs := pieces.map run.withCharacters }

lemma characters_of_single (hruns : layer.runs = [run]) : layer.characters = run.characters := by
  rw [characters, hruns]
  simp [String.join]

/-- One run has no other to agree with, while pieces are compared with the first of them. -/
lemma textFills_inPieces (hruns : layer.runs = [run]) (hpieces : pieces ≠ [])
    (hfills : layer.fills ≠ [] ∨ (run.fills == run.fills) = true) :
    (layer.inPieces run pieces).textFills = layer.textFills := by
  by_cases hown : layer.fills = []
  · have hself : (run.fills == run.fills) = true := hfills.resolve_left (not_not_intro hown)
    obtain ⟨piece, others, rfl⟩ := List.exists_cons_of_ne_nil hpieces
    have hagree : (others.map run.withCharacters).all (·.fills == run.fills) = true := by
      simp [List.all_map, Function.comp_def, TextRun.fills_withCharacters, hself]
    simp [textFills, inPieces, hown, hruns, TextRun.fills_withCharacters, hagree]
  · simp [textFills, inPieces, hown]

end Layer

/-- The text that is written right inside the element of a fragment. -/
def Fragment.content? : Fragment → Option String
  | raw _ _ => none
  | element head _ _ => head.content?

namespace Context

variable {context : Context} {layer : Layer} {run : TextRun} {pieces : List String}

lemma typography_withCharacters (settings : Settings) (run : TextRun) (characters : String) :
    settings.typography (run.withCharacters characters) = settings.typography run := rfl

lemma run_withCharacters (context : Context) (run : TextRun) (characters : String) :
    context.run (run.withCharacters characters) = context.run run := rfl

lemma textTypography_inPieces (hpieces : 2 ≤ pieces.length) :
    context.textTypography (layer.inPieces run pieces) = context.settings.typography run := by
  match pieces, hpieces with
  | first :: second :: others, _ =>
    simp only [textTypography, Layer.inPieces, List.map_cons]
    refine Classes.shared_of_forall_eq (List.cons_ne_nil _ _) ?_
    simp [typography_withCharacters]

lemma text_inPieces (hruns : layer.runs = [run]) (hpieces : 2 ≤ pieces.length)
    (hfills : layer.fills ≠ [] ∨ (run.fills == run.fills) = true) :
    context.text (layer.inPieces run pieces) = context.text layer := by
  have hne : pieces ≠ [] := List.ne_nil_of_length_pos (by omega)
  have htypography : context.textTypography layer = context.settings.typography run := by
    rw [textTypography, hruns]
  rw [text, text, Layer.textFills_inPieces hruns hne hfills, textTypography_inPieces hpieces,
    htypography]
  rfl

lemma content?_runFragment (context : Context) (run : TextRun) :
    (context.runFragment run).content? = some run.characters := rfl

/-- A text layer with one run keeps its style when the run is cut into several pieces: its element
is the same but for the text, which the fragments of the pieces have in its place. The pieces have
the typography and the classes of the run. -/
theorem textFragment_inPieces (context : Context) (tag : String) (hruns : layer.runs = [run])
    (hpieces : 2 ≤ pieces.length)
    (hfills : layer.fills ≠ [] ∨ (run.fills == run.fills) = true) :
    let cut := layer.inPieces run pieces
    context.text cut = context.text layer ∧
    (∀ piece ∈ cut.runs, context.settings.typography piece = context.settings.typography run) ∧
    ∃ head nested own,
      context.textFragment layer tag =
        .element { head with content? := some run.characters } [] own ∧
      context.textFragment cut tag = .element head nested own ∧
      (∀ inner ∈ nested, inner.className? = some (context.run run).classes.text) ∧
      nested.map Fragment.content? = pieces.map some ∧
      (String.join pieces = run.characters →
        String.join (nested.filterMap Fragment.content?) = run.characters) := by
  intro cut
  have htext : context.text cut = context.text layer := text_inPieces hruns hpieces hfills
  have hruns' : cut.runs = pieces.map run.withCharacters := rfl
  have hcut : 1 < cut.runs.length := by
    rw [hruns', List.length_map]
    omega
  have hsingle : ¬1 < layer.runs.length := by simp [hruns]
  refine ⟨htext, ?_, styled tag (context.text layer), cut.runs.map context.runFragment,
    { colors := (context.text layer).colors }, ?_, ?_, ?_, ?_, ?_⟩
  · rw [hruns', List.forall_mem_map]
    exact fun characters _ => typography_withCharacters context.settings run characters
  · rw [textFragment, if_neg hsingle, Layer.characters_of_single hruns]
  · rw [textFragment, if_pos hcut, htext]
  · rw [List.forall_mem_map, hruns', List.forall_mem_map]
    intro characters _
    rw [className?_runFragment, classesFrom_runSources, run_withCharacters]
  · rw [hruns', List.map_map, List.map_map]
    exact List.map_congr_left fun characters _ =>
      content?_runFragment context (run.withCharacters characters)
  · intro hjoin
    have hcontents : (cut.runs.map context.runFragment).filterMap Fragment.content? = pieces := by
      rw [hruns', List.filterMap_map, List.filterMap_map]
      exact List.filterMap_some
    rw [hcontents, hjoin]

end Context

/-! ### A title in two pieces -/

def titleRun : TextRun where
  characters := "Hello world"
  weight := 700
  fills := [.solid { color := .ofBytes 239 68 68 }]

def title : Layer where
  id := "title"
  name := "Title"
  kind := .text
  runs := [titleRun]

theorem textFragment_inPieces_title :
    let context : Context := ⟨{}, {}⟩
    let cut := title.inPieces titleRun ["Hello ", "world"]
    title.runs = [titleRun] ∧
    (titleRun.fills == titleRun.fills) = true ∧
    context.text cut = context.text title ∧
    ∃ head nested own,
      context.textFragment title "p" =
        .element { head with content? := some "Hello world" } [] own ∧
      context.textFragment cut "p" = .element head nested own ∧
      nested.map Fragment.content? = [some "Hello ", some "world"] ∧
      String.join (nested.filterMap Fragment.content?) = "Hello world" := by
  intro context cut
  have hruns : title.runs = [titleRun] := rfl
  have hpieces : 2 ≤ ["Hello ", "world"].length := by decide
  have hfills : (titleRun.fills == titleRun.fills) = true := by decide +kernel
  obtain ⟨htext, -, head, nested, own, hwhole, hcut, -, hcontents, hjoin⟩ :=
    context.textFragment_inPieces "p" hruns hpieces (.inr hfills)
  exact ⟨hruns, hfills, htext, head, nested, own, hwhole, hcut, hcontents, hjoin (by decide)⟩

end UtilityMarkup
