import SqlLoom.Proofs.Binding

/-! The text of pieces, part by part, and when two statements are written out alike: their pieces
hold the same parameters and the same first clash. -/
namespace SqlLoom

/-- Both fail with one error, or both succeed with related values. -/
inductive Alike {α β : Type} (R : α → β → Prop) : Result α → Result β → Prop
  | ok {a b} : R a b → Alike R (.ok a) (.ok b)
  | error (e : Error) : Alike R (.error e) (.error e)

lemma Alike.imp {α β : Type} {R S : α → β → Prop} {x : Result α} {y : Result β}
    (h : Alike R x y) (hRS : ∀ a b, R a b → S a b) : Alike S x y := by
  cases h with
  | ok hab => exact .ok (hRS _ _ hab)
  | error e => exact .error e

namespace Layout

/-- The registry once the parameters among the pieces are registered. -/
def registered (r : Registry) (ps : List Piece) : Registry :=
  (occurrences ps).foldl (fun r o => r.register o) r

lemma texts_cons (o : FormatOptions) (r : Registry) (p : Piece) (ps : List Piece) :
    texts o r (p :: ps) =
      pieceText o (fun name => r.nextSlot name + 1) p :: texts o (registered r [p]) ps := by
  cases p <;> rfl

lemma registered_cons (r : Registry) (p : Piece) (ps : List Piece) :
    registered r (p :: ps) = registered (registered r [p]) ps := by
  cases p <;> rfl

lemma texts_append (o : FormatOptions) (r : Registry) (ps qs : List Piece) :
    texts o r (ps ++ qs) = texts o r ps ++ texts o (registered r ps) qs := by
  induction ps generalizing r with
  | nil => rfl
  | cons p ps ih =>
    rw [List.cons_append, texts_cons, texts_cons, ih, ← registered_cons, List.cons_append]

lemma text_append (o : FormatOptions) (ps qs : List Piece) :
    text o (ps ++ qs) = text o ps ++ String.join (texts o (registered {} ps) qs) := by
  rw [text, texts_append, String.join_append]
  rfl

/-- Without parameters the text is the same wherever it is written. -/
lemma texts_of_occurrences_eq_nil (o : FormatOptions) (r r' : Registry) {ps : List Piece}
    (h : occurrences ps = []) : texts o r ps = texts o r' ps := by
  induction ps with
  | nil => rfl
  | cons p ps ih =>
    cases p with
    | slot a => simp [occurrences] at h
    | _ => exact congrArg (_ :: ·) (ih h)

end Layout

/-- Whether a statement can be written out depends on its clashes and occurrences only. -/
lemma Statement.format_alike {s s' : Statement} (o o' : FormatOptions)
    (hc : Layout.clash? (Layout.statement 0 .whole s) =
      Layout.clash? (Layout.statement 0 .whole s'))
    (ho : Layout.occurrences (Layout.statement 0 .whole s) =
      Layout.occurrences (Layout.statement 0 .whole s')) :
    Alike (fun r r' =>
        r = { sql := Layout.text o (Layout.statement 0 .whole s)
              params := Registry.reconciled o.preset
                (Layout.occurrences (Layout.statement 0 .whole s)) } ∧
        r' = { sql := Layout.text o' (Layout.statement 0 .whole s')
               params := Registry.reconciled o'.preset
                (Layout.occurrences (Layout.statement 0 .whole s)) })
      (s.format o) (s'.format o') := by
  simp only [format, Registry.finish_eq, ← hc, ← ho]
  cases Layout.clash? (Layout.statement 0 .whole s) with
  | some table => exact .error _
  | none =>
    dsimp only
    cases (Registry.ofOccurrences
        (Layout.occurrences (Layout.statement 0 .whole s))).conflict with
    | some e => exact .error e
    | none => exact .ok ⟨rfl, rfl⟩

end SqlLoom
