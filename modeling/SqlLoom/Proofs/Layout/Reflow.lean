import SqlLoom.Proofs.Layout.Texts
import SqlLoom.Proofs.Layout.Writing

/-! Rendering options change layout and spelling only: no option decides whether a statement can be
written out, and the wide layout of a text differs from the compact one by line breaks alone. -/
namespace SqlLoom

namespace Layout

/-- Some blanks become a line break with an indentation, and such breaks are put in after some
opening and before some closing parentheses. -/
inductive Reflowed : List Char → List Char → Prop
  | nil : Reflowed [] []
  | keep (c : Char) {cs ds} : Reflowed cs ds → Reflowed (c :: cs) (c :: ds)
  | blank (n : Nat) {cs ds} : Reflowed cs ds →
    Reflowed (' ' :: cs) ('\n' :: List.replicate n ' ' ++ ds)
  | opening (n : Nat) {cs ds} : Reflowed cs ds →
    Reflowed ('(' :: cs) ('(' :: '\n' :: List.replicate n ' ' ++ ds)
  | closing (n : Nat) {cs ds} : Reflowed cs ds →
    Reflowed (')' :: cs) ('\n' :: List.replicate n ' ' ++ ')' :: ds)

namespace Reflowed

variable {cs ds cs' ds' : List Char}

lemma refl (cs : List Char) : Reflowed cs cs := by
  induction cs with
  | nil => exact .nil
  | cons c cs ih => exact .keep c ih

lemma append (h : Reflowed cs ds) (h' : Reflowed cs' ds') : Reflowed (cs ++ cs') (ds ++ ds') := by
  induction h with
  | nil => exact h'
  | keep c _ ih => exact .keep c ih
  | blank n _ ih => simpa using Reflowed.blank n ih
  | opening n _ ih => simpa using Reflowed.opening n ih
  | closing n _ ih => simpa using Reflowed.closing n ih

end Reflowed

lemma toList_lineBreak (d : Nat) :
    (lineBreak d).toList = '\n' :: List.replicate (4 * d) ' ' := by
  simp [lineBreak, indent]

lemma reflowed_pieceText (o : FormatOptions) (number : String → Nat) (p : Piece) :
    Reflowed (pieceText { o with pretty := false } number p).toList
      (pieceText { o with pretty := true } number p).toList := by
  cases p with
  | word s => exact .refl _
  | name s => exact .refl _
  | slot a => exact .refl _
  | clash table => exact .refl _
  | gap d => simpa [pieceText, toList_lineBreak] using Reflowed.blank (4 * d) .nil
  | opening d =>
    simpa [pieceText, toList_lineBreak] using Reflowed.opening (4 * (d + 1)) .nil
  | closing d => simpa [pieceText, toList_lineBreak] using Reflowed.closing (4 * d) .nil

lemma reflowed_texts (o : FormatOptions) (r : Registry) (ps : List Piece) :
    Reflowed (String.join (texts { o with pretty := false } r ps)).toList
      (String.join (texts { o with pretty := true } r ps)).toList := by
  induction ps generalizing r with
  | nil => exact .refl _
  | cons p ps ih =>
    simp only [texts_cons, String.join_cons, String.toList_append]
    exact (reflowed_pieceText o _ p).append (ih _)

end Layout

/-- Written in one go, a statement comes out as by way of its pieces. Under any two options it can
be written, or it fails under both with one error. Of the two layouts under otherwise equal options
the parameters are the same, and one text is the other with line breaks. -/
theorem Statement.format_reflowed (s : Statement) :
    (∀ o : FormatOptions, s.written o = s.format o) ∧
    (∀ o o' : FormatOptions, Alike (fun _ _ => True) (s.written o) (s.written o')) ∧
    ∀ o : FormatOptions,
      Alike (fun compact wide => wide.params = compact.params ∧
          Layout.Reflowed compact.sql.toList wide.sql.toList)
        (s.written { o with pretty := false }) (s.written { o with pretty := true }) := by
  refine ⟨fun o => written_eq_format o s, fun o o' => ?_, fun o => ?_⟩
  · rw [written_eq_format, written_eq_format]
    exact (format_alike o o' rfl rfl).imp fun _ _ _ => trivial
  · rw [written_eq_format, written_eq_format]
    refine (format_alike { o with pretty := false } { o with pretty := true } rfl rfl).imp ?_
    rintro _ _ ⟨rfl, rfl⟩
    exact ⟨rfl, Layout.reflowed_texts o {} _⟩

end SqlLoom
