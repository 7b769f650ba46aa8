import SqlLoom.Proofs.Text
import SqlLoom.Render

/-! Quoted names and string literals as tokens. The reader takes back what was enclosed and stops at
the first closing quote that stands alone, so that nothing inside of a token can end it. -/
namespace SqlLoom

namespace Text

/-- Reads one token in the given quotes. Returns what it encloses and the text behind it. -/
def readQuoted (quotes : Char × Char) (text : String) : Option (String × String) :=
  match text.toList with
  | [] => none
  | c :: cs =>
    if c = quotes.1 then
      (readEnclosed quotes.2 cs).map fun (a, b) => (String.ofList a, String.ofList b)
    else none

/-- What is read had been enclosed, and no closing quote follows. -/
lemma eq_double_of_readEnclosed {closing : Char} {cs a b : List Char}
    (h : readEnclosed closing cs = some (a, b)) :
    cs = double closing a ++ closing :: b ∧ b.head? ≠ some closing := by
  fun_induction readEnclosed closing cs generalizing a b with
  | case1 => cases h
  | case2 =>
    cases h
    simp [double]
  | case3 => cases h
  | case4 rest ih =>
    obtain ⟨⟨a', b'⟩, hread, heq⟩ := Option.map_eq_some_iff.mp h
    cases heq
    obtain ⟨rfl, hb⟩ := ih hread
    exact ⟨by simp [double], hb⟩
  | case5 y rest hy =>
    cases h
    exact ⟨by simp [double], by simpa using hy⟩
  | case6 x y rest hx ih =>
    obtain ⟨⟨a', b'⟩, hread, heq⟩ := Option.map_eq_some_iff.mp h
    cases heq
    obtain ⟨hrest, hb⟩ := ih hread
    exact ⟨by rw [double, if_neg hx, List.cons_append, ← hrest], hb⟩

/-- Reading gives an enclosed text and what stands behind it, and gives nothing else. -/
lemma readQuoted_eq_some_iff {quotes : Char × Char} {text s t : String} :
    readQuoted quotes text = some (s, t) ↔
      text = enclose quotes.1 quotes.2 s ++ t ∧ t.toList.head? ≠ some quotes.2 := by
  constructor
  · intro h
    unfold readQuoted at h
    split at h
    · cases h
    next c cs htext =>
      split at h
      next hc =>
        obtain ⟨⟨a, b⟩, hread, heq⟩ := Option.map_eq_some_iff.mp h
        obtain ⟨rfl, rfl⟩ := Prod.mk.inj heq
        obtain ⟨hcs, hb⟩ := eq_double_of_readEnclosed hread
        refine ⟨?_, by simpa using hb⟩
        rw [← String.toList_inj, htext, hc, hcs]
        simp [enclose]
      · cases h
  · rintro ⟨rfl, ht⟩
    have htext : (enclose quotes.1 quotes.2 s ++ t).toList =
        quotes.1 :: (double quotes.2 s.toList ++ quotes.2 :: t.toList) := by
      simp [enclose]
    simp [readQuoted, htext, readEnclosed_double ht]

/-- An enclosed text is read back exactly where no closing quote follows. -/
lemma readQuoted_enclose_iff {quotes : Char × Char} {s t : String} :
    readQuoted quotes (enclose quotes.1 quotes.2 s ++ t) = some (s, t) ↔
      t.toList.head? ≠ some quotes.2 := by
  rw [readQuoted_eq_some_iff, and_iff_right rfl]

lemma enclose_injective (quotes : Char × Char) :
    Function.Injective (enclose quotes.1 quotes.2) := by
  intro s s' h
  have hread : readQuoted quotes (enclose quotes.1 quotes.2 s' ++ "") = some (s', "") :=
    readQuoted_enclose_iff.mpr (by simp)
  rw [← h, readQuoted_enclose_iff.mpr (by simp)] at hread
  cases hread
  rfl

end Text

lemma Expr.format_string (o : FormatOptions) (s : String) :
    (Expr.string s).format o = Text.enclose '\'' '\'' s := by
  simp [Expr.format, Expr.string, Layout.expr, Layout.text, Layout.texts, Layout.pieceText,
    Layout.literalText, String.join]

/-- No preset quotes names as strings are quoted. -/
lemma Preset.quotes_ne (p : Preset) : p.quotes.1 ≠ '\'' := by cases p <;> decide

/-- A token is read from a text exactly if the text is a quoted name, or a string literal, with the
rest behind it, and the rest does not begin with another closing quote. So distinct names have
distinct tokens, distinct strings have, and no name has that of a string. -/
theorem Preset.readQuoted_tokens (p : Preset) (o : FormatOptions) :
    (∀ text name rest : String, Text.readQuoted p.quotes text = some (name, rest) ↔
      text = p.quoteName name ++ rest ∧ rest.toList.head? ≠ some p.quotes.2) ∧
    (∀ text s rest : String, Text.readQuoted ('\'', '\'') text = some (s, rest) ↔
      text = (Expr.string s).format o ++ rest ∧ rest.toList.head? ≠ some '\'') ∧
    Function.Injective p.quoteName ∧ Function.Injective (fun s => (Expr.string s).format o) ∧
    ∀ name s : String, p.quoteName name ≠ (Expr.string s).format o := by
  have hliteral : (fun s => (Expr.string s).format o) = Text.enclose '\'' '\'' :=
    funext (Expr.format_string o)
  refine ⟨?_, ?_, Text.enclose_injective p.quotes, ?_, ?_⟩
  · intro text name rest
    exact Text.readQuoted_eq_some_iff
  · intro text s rest
    rw [Expr.format_string]
    exact Text.readQuoted_eq_some_iff
  · rw [hliteral]
    exact Text.enclose_injective ('\'', '\'')
  · intro name s h
    have hhead := congrArg (fun text => text.toList.head?) h
    rw [Expr.format_string] at hhead
    exact p.quotes_ne (by simpa [Preset.quoteName, Text.enclose] using hhead)

/-- Brackets differ, and only the closing one is doubled. -/
example : Text.readQuoted Preset.sqlServer.quotes
    (Preset.sqlServer.quoteName "[a]]" ++ ".b") = some ("[a]]", ".b") := by decide

end SqlLoom
