import SqlLoom.Proofs.Operators.Grouping

/-! When a text holds two dashes in a row, which begin a comment. Words hold single dashes only, so
the dashes are a name's or a data type's own, or a minus stands before an operand that starts with
one. -/
namespace SqlLoom

/-- No two dashes in a row. -/
def Dashless (cs : List Char) : Prop := cs.IsChain fun c c' => ¬(c = '-' ∧ c' = '-')

lemma dashless_append {cs cs' : List Char} : Dashless (cs ++ cs') ↔ Dashless cs ∧ Dashless cs' ∧
    ∀ c ∈ cs.getLast?, ∀ c' ∈ cs'.head?, ¬(c = '-' ∧ c' = '-') := List.isChain_append

lemma not_dashless_iff (cs : List Char) : ¬Dashless cs ↔ ['-', '-'] <:+: cs := by
  rw [Dashless, List.isChain_iff_forall_rel_of_append_cons_cons]
  constructor
  · intro h
    push Not at h
    obtain ⟨_, _, before, behind, rfl, rfl, rfl⟩ := h
    exact ⟨before, behind, by simp⟩
  · rintro ⟨before, behind, h⟩ hall
    have hsplit : cs = before ++ '-' :: '-' :: behind := by rw [← h]; simp
    exact hall hsplit ⟨rfl, rfl⟩

namespace ExprToken

/-- The one token that is a dash. -/
def dash : ExprToken := .mark (.unary .minus)

/-- No two minus signs in a row. -/
def Apart (ts : List ExprToken) : Prop := ts.IsChain fun t t' => ¬(t = dash ∧ t' = dash)

lemma apart_cons {t : ExprToken} {ts : List ExprToken} :
    Apart (t :: ts) ↔ (∀ t' ∈ ts.head?, ¬(t = dash ∧ t' = dash)) ∧ Apart ts := List.isChain_cons

lemma apart_append {t : ExprToken} (ht : t ≠ dash) {ts ts' : List ExprToken} :
    Apart (ts ++ t :: ts') ↔ Apart ts ∧ Apart ts' := by
  have hbefore : ∀ x ∈ ts.getLast?, ∀ y ∈ (t :: ts').head?, ¬(x = dash ∧ y = dash) := by
    rintro _ _ _ ⟨rfl⟩ h
    exact ht h.2
  have hbehind : ∀ y ∈ ts'.head?, ¬(t = dash ∧ y = dash) := fun _ _ h => ht h.1
  rw [Apart, List.isChain_append, List.isChain_cons, and_iff_left hbefore, and_iff_right hbehind]
  rfl

lemma head?_eq_dash {p : Preset} (t : ExprToken) : (t.chars p).head? = some '-' ↔ t = dash := by
  have hquote : p.quotes.1 ≠ '-' := by cases p <;> simp [Preset.quotes, Preset.backtick]
  have hmark : ∀ m ∈ Mark.all, m.text.toList.head? = some '-' ↔ m = .unary .minus := by
    decide +kernel
  cases t with
  | column q n => cases q <;> simp [chars, dash, Preset.toList_quoteName, hquote]
  | cast d => simp [chars, dash]
  | mark m => simpa [chars, dash] using hmark m m.mem_all

/-- Apart from data types only a minus ends with a dash. -/
lemma getLast?_eq_dash {p : Preset} (t : ExprToken) (h : (t.chars p).getLast? = some '-') :
    t = dash ∨ t.isOpen = true := by
  have hmark : ∀ m ∈ Mark.all, m.text.toList.getLast? = some '-' → m = .unary .minus := by
    decide +kernel
  cases t with
  | column q n => exact .inr rfl
  | cast d => exact .inr rfl
  | mark m => exact .inl (congrArg _ (hmark m m.mem_all h))

lemma head?_flatMap_chars {p : Preset} (ts : List ExprToken) :
    (ts.flatMap (chars p)).head? = ts.head?.bind fun t => (t.chars p).head? := by
  cases ts with
  | nil => rfl
  | cons t ts =>
    rw [List.flatMap_cons, List.head?_append_of_ne_nil _ t.chars_ne_nil]
    rfl

/-- Between tokens two dashes come from two minus signs only. -/
lemma dashless_flatMap {p : Preset} {ts : List ExprToken} (hts : Spaced ts) :
    Dashless (ts.flatMap (chars p)) ↔ (∀ t ∈ ts, Dashless (t.chars p)) ∧ Apart ts := by
  induction ts with
  | nil => simp [Dashless, Apart]
  | cons t ts ih =>
    have hjoin : (∀ c ∈ (t.chars p).getLast?, ∀ c' ∈ (ts.flatMap (chars p)).head?,
        ¬(c = '-' ∧ c' = '-')) ↔ ∀ t' ∈ ts.head?, ¬(t = dash ∧ t' = dash) := by
      rw [head?_flatMap_chars]
      constructor
      · rintro h t' ht' ⟨rfl, rfl⟩
        rw [Option.mem_def] at ht'
        exact h '-' rfl '-' (by simp [ht', head?_eq_dash]) ⟨rfl, rfl⟩
      · rintro h _ hlast _ hhead ⟨rfl, rfl⟩
        obtain ⟨t', ht', hdash⟩ := Option.bind_eq_some_iff.mp hhead
        obtain rfl := (head?_eq_dash t').mp hdash
        have hnext : t.isOpen = true → dash.follows = true :=
          (List.isChain_cons.mp hts).1 dash ht'
        rcases getLast?_eq_dash t hlast with rfl | hopen
        · exact h dash ht' ⟨rfl, rfl⟩
        · exact absurd (hnext hopen) Bool.false_ne_true
    rw [List.flatMap_cons, dashless_append, hjoin, ih (List.IsChain.tail hts), apart_cons,
      List.forall_mem_cons]
    tauto

end ExprToken

namespace Expr
open ExprToken

/-- Whether the text starts with a minus. -/
def startsMinus : Expr → Bool
  | .unary .minus _ => true
  | .binary e _ _ | .isNull e _ | .between e _ _ _ | .inList e _ _ | .cast e _ _ => e.startsMinus
  | _ => false

mutual
/-- Whether some minus stands before an operand that starts with one. -/
def doublesMinus : Expr → Bool
  | .binary l _ r => l.doublesMinus || r.doublesMinus
  | .unary op e => (op == .minus && e.startsMinus) || e.doublesMinus
  | .isNull e _ => e.doublesMinus
  | .between e l h _ => e.doublesMinus || l.doublesMinus || h.doublesMinus
  | .inList e es _ => e.doublesMinus || listDoublesMinus es
  | .cast e _ _ => e.doublesMinus
  | .nested e => e.doublesMinus
  | _ => false
def listDoublesMinus : List Expr → Bool
  | [] => false
  | e :: es => e.doublesMinus || listDoublesMinus es
end

lemma listDoublesMinus_eq_any (es : List Expr) : listDoublesMinus es = es.any doublesMinus := by
  induction es with
  | nil => rfl
  | cons e es ih => rw [listDoublesMinus, ih, List.any_cons]

lemma Operational.tokens_ne_nil {e : Expr} (h : e.Operational) : e.tokens ≠ [] := by
  cases h <;> simp [tokens]

lemma Operational.head?_tokens {e : Expr} (h : e.Operational) :
    e.tokens.head? = some dash ↔ e.startsMinus = true := by
  induction h with
  | column q n => simp [tokens, startsMinus, dash]
  | nested _ _ => simp [tokens, startsMinus, dash]
  | unary op _ _ => cases op <;> simp [tokens, startsMinus, dash]
  | binary op hl _ ihl _ => rwa [tokens, startsMinus, List.head?_append_of_ne_nil _ hl.tokens_ne_nil]
  | isNull negated he ih => rwa [tokens, startsMinus, List.head?_append_of_ne_nil _ he.tokens_ne_nil]
  | cast t he ih => rwa [tokens, startsMinus, List.head?_append_of_ne_nil _ he.tokens_ne_nil]
  | between negated he _ _ ih _ _ =>
    rwa [tokens, startsMinus, List.append_assoc, List.head?_append_of_ne_nil _ he.tokens_ne_nil]
  | inList negated he _ ih _ =>
    rwa [tokens, startsMinus, List.append_assoc, List.head?_append_of_ne_nil _ he.tokens_ne_nil]

lemma apart_intercalate (parts : List (List ExprToken)) :
    Apart (List.intercalate [.mark .comma] parts) ↔ ∀ part ∈ parts, Apart part := by
  induction parts with
  | nil => simp [Apart]
  | cons part parts ih =>
    cases parts with
    | nil => simp
    | cons next parts =>
      rw [List.intercalate_cons_cons, List.append_assoc, List.singleton_append,
        apart_append (by simp [dash]), ih, List.forall_mem_cons (a := part)]

/-- Two minus signs in a row are a minus before an operand that starts with one. -/
lemma Operational.apart_tokens {e : Expr} (h : e.Operational) :
    Apart e.tokens ↔ e.doublesMinus = false := by
  induction h with
  | column q n => simp [tokens, doublesMinus, Apart]
  | @nested e _ ih =>
    have hparens : tokens (.nested e) = [] ++ .mark .opening :: (e.tokens ++ [.mark .closing]) := rfl
    rw [hparens, apart_append (by simp [dash]), apart_append (by simp [dash]), ih]
    simp [Apart, doublesMinus]
  | binary op _ _ ihl ihr =>
    rw [tokens, apart_append (by simp [dash]), ihl, ihr, doublesMinus, Bool.or_eq_false_iff]
  | @unary op e he ih =>
    have hhead : (∀ t ∈ e.tokens.head?, ¬(ExprToken.mark (.unary op) = dash ∧ t = dash)) ↔
        (op == .minus && e.startsMinus) = false := by
      have hstarts := he.head?_tokens
      cases op <;> cases hhead : e.tokens.head? <;> simp_all [dash]
    rw [tokens, apart_cons, hhead, ih, doublesMinus, Bool.or_eq_false_iff]
  | isNull negated _ ih =>
    rw [tokens, apart_append (by simp [dash]), ih]
    simp [Apart, doublesMinus]
  | cast t _ ih =>
    rw [tokens, apart_append (by simp [dash]), ih]
    simp [Apart, doublesMinus]
  | between negated _ _ _ ih ihl ihh =>
    rw [tokens, List.append_assoc, List.cons_append, apart_append (by simp [dash]),
      apart_append (by simp [dash]), ih, ihl, ihh]
    simp [doublesMinus, and_assoc]
  | inList negated _ _ ih ihes =>
    rw [tokens, List.append_assoc, List.cons_append, apart_append (by simp [dash]),
      apart_append (by simp [dash]), ih, apart_intercalate, listTokens_eq_map, List.forall_mem_map,
      forall₂_congr ihes, doublesMinus, listDoublesMinus_eq_any, Bool.or_eq_false_iff,
      List.any_eq_false]
    simp [Apart]

/-- A text holds two dashes in a row where a minus stands before an operand that starts with one,
and else inside of a name or a data type only. -/
lemma Operational.dashes_iff {o : FormatOptions} (ho : o.quoteNames = true) {e : Expr}
    (h : e.Operational) :
    ['-', '-'] <:+: (e.format o).toList ↔ e.shown.doublesMinus = true ∨
      ∃ t ∈ e.shown.tokens, ['-', '-'] <:+: t.chars o.preset := by
  have hspaced : Spaced e.shown.tokens := h.spaced_shown
  rw [← not_dashless_iff, toList_format o ho h, dashless_flatMap hspaced, h.shown.apart_tokens]
  simp only [← not_dashless_iff]
  grind

end Expr

end SqlLoom
