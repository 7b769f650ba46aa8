import SqlLoom.Proofs.Operators.Dashes
import SqlLoom.Proofs.Operators.Meaning

/-! Formulas: expressions with prefix and postfix operators, in which arithmetic is not nested
without another operator in between. Their text regroups conjunctions and disjunctions only, so
that a formula whose operands bind tightly enough shares its text with formulas of the same meaning
and with formulas whose own operands do not; and the latter always mean something else. -/
namespace SqlLoom

def BinaryOp.isArithmetic : BinaryOp → Bool
  | .plus | .minus | .multiply | .divide | .modulo => true
  | _ => false

namespace Expr

def isArithmetic : Expr → Bool
  | .binary _ op _ => op.isArithmetic
  | _ => false

/-- Columns under operators, without concatenation and with no arithmetic right below arithmetic. -/
inductive Formula : Expr → Prop
  | column (q n) : Formula (.column q n)
  | binary {l op r} : Formula l → Formula r → op ≠ .concat →
    (op.isArithmetic = true → l.isArithmetic = false ∧ r.isArithmetic = false) →
    Formula (.binary l op r)
  | unary (op) {e} : Formula e → Formula (.unary op e)
  | isNull {e} (negated) : Formula e → Formula (.isNull e negated)
  | cast {e} (t) : Formula e → Formula (.cast e t true)
  | between {e l h} (negated) : Formula e → Formula l → Formula h → Formula (.between e l h negated)
  | inList {e es} (negated) : Formula e → (∀ x ∈ es, Formula x) → Formula (.inList e es negated)

lemma Formula.operational {e : Expr} (h : e.Formula) : e.Operational := by
  induction h with
  | column q n => exact .column q n
  | binary _ _ _ _ ihl ihr => exact .binary _ ihl ihr
  | unary op _ ih => exact .unary op ih
  | isNull negated _ ih => exact .isNull negated ih
  | cast t _ ih => exact .cast t ih
  | between negated _ _ _ ih ihl ihh => exact .between negated ih ihl ihh
  | inList negated _ _ ih ihes => exact .inList negated ih ihes

lemma isArithmetic_iff (op : BinaryOp) : op.isArithmetic = true ↔ 7 ≤ Layout.precedence op := by
  cases op <;> decide

/-- Grouping to the left leaves the operator on top at its level. -/
lemma isArithmetic_regrouped {e : Expr} (h : e.Formula) :
    e.regrouped.isArithmetic = e.isArithmetic := by
  cases h with
  | @binary l op r _ _ _ _ =>
    obtain ⟨l', op', r', hgraft, hop⟩ := exists_graft l.regrouped op r.regrouped
    rw [regrouped, hgraft, isArithmetic, isArithmetic, Bool.eq_iff_iff, isArithmetic_iff,
      isArithmetic_iff, hop]
  | _ => rfl

/-- In a formula only conjunctions and disjunctions are regrouped. -/
lemma grafted_eq_nil {op : BinaryOp} {r : Expr} (hr : r.Formula) (hconcat : op ≠ .concat)
    (harith : op.isArithmetic = true → r.isArithmetic = false) (hand : op ≠ .and)
    (hor : op ≠ .or) : grafted op r.regrouped = [] := by
  rw [← isArithmetic_regrouped hr] at harith
  cases hregrouped : r.regrouped with
  | binary a op' b =>
    rw [hregrouped, isArithmetic] at harith
    have hop : Layout.regroups op op' = false := by
      revert hconcat harith hand hor
      cases op <;> cases op' <;> decide
    simp [grafted, hop]
  | _ => rfl

lemma graft_eq_binary {op : BinaryOp} {r : Expr} (h : grafted op r = []) (l : Expr) :
    graft l op r = .binary l op r := by
  fun_cases graft l op r with
  | case1 a op' b hop => simp [grafted, hop] at h
  | case2 => rfl
  | case3 => rfl

lemma Formula.mem_regroupings {e : Expr} (h : e.Formula) {p : BinaryOp × BinaryOp}
    (hp : p ∈ e.regroupings) : p = (.and, .and) ∨ p = (.or, .or) := by
  induction h with
  | column q n => exact absurd hp List.not_mem_nil
  | @binary l op r _ hr hconcat harith ihl ihr =>
    simp only [regroupings, List.mem_append] at hp
    rcases hp with (hp | hp) | hp
    · exact ihl hp
    · exact ihr hp
    · obtain ⟨op₁, op₂⟩ := p
      obtain ⟨hop, hregroups⟩ := regroups_of_mem_grafted hp
      obtain rfl : op₁ = op := hop
      by_cases hand : op₁ = .and
      · subst hand
        cases op₂ <;> first | exact .inl rfl | exact absurd hregroups (by decide)
      · by_cases hor : op₁ = .or
        · subst hor
          cases op₂ <;> first | exact .inr rfl | exact absurd hregroups (by decide)
        · rw [grafted_eq_nil hr hconcat (fun h => (harith h).2) hand hor] at hp
          exact absurd hp List.not_mem_nil
  | unary op _ ih => exact ih hp
  | isNull negated _ ih => exact ih hp
  | cast t _ ih => exact ih hp
  | between negated _ _ _ ih ihl ihh =>
    simp only [regroupings, List.mem_append] at hp
    rcases hp with (hp | hp) | hp
    · exact ih hp
    · exact ihl hp
    · exact ihh hp
  | inList negated _ _ ih ihes =>
    simp only [regroupings, listRegroupings_eq_flatMap, List.mem_append, List.mem_flatMap] at hp
    rcases hp with hp | ⟨x, hx, hp⟩
    · exact ih hp
    · exact ihes x hx hp

end Expr

/-- Operators as the expressions that they build, with conjunctions and disjunctions grouped to
the left. -/
def Operators.formal : Operators Expr where
  binary op l r := if op = .and ∨ op = .or then l.graft op r else .binary l op r
  unary op e := .unary op e
  isNull negated e := .isNull e negated
  between negated e l h := .between e l h negated
  inList negated e es := .inList e es negated
  cast t e := .cast e t true

namespace Expr

lemma graft_assoc {op : BinaryOp} (h : Layout.regroups op op = true) (a b c : Expr) :
    a.graft op (b.graft op c) = (a.graft op b).graft op c := by
  fun_induction graft b op c with
  | case1 x op' y hop ih =>
    rw [graft_of_regroups hop, ih, graft_of_regroups hop]
  | case2 x op' y hop =>
    have hnil : grafted op (binary x op' y) = [] := by simp [grafted, hop]
    rw [graft_of_regroups h, graft_eq_binary hnil]
  | case3 c hc =>
    rw [graft_of_regroups h]
    cases c <;> first | rfl | exact absurd rfl (hc _ _ _)

lemma formal_regroups {op : BinaryOp} (hop : op = .and ∨ op = .or)
    (h : Layout.regroups op op = true) : Operators.formal.Regroups op op := by
  intro a b c
  simp only [Operators.formal, if_pos hop]
  exact graft_assoc h a b c

/-- The formal value of a formula is the formula grouped to the left. -/
lemma Formula.value_formal {e : Expr} (h : e.Formula) : e.value Operators.formal id = e.regrouped := by
  induction h with
  | column q n => rfl
  | @binary l op r _ hr hconcat harith ihl ihr =>
    rw [value, ihl, ihr, regrouped, Operators.formal]
    dsimp only
    split
    · rfl
    · next hop =>
      obtain ⟨hand, hor⟩ := not_or.mp hop
      rw [graft_eq_binary (grafted_eq_nil hr hconcat (fun h => (harith h).2) hand hor)]
  | unary op _ ih => rw [value, regrouped, ih]; rfl
  | isNull negated _ ih => rw [value, regrouped, ih]; rfl
  | cast t _ ih => rw [value, regrouped, ih]; rfl
  | between negated _ _ _ ih ihl ihh => rw [value, regrouped, ih, ihl, ihh]; rfl
  | inList negated _ _ ih ihes =>
    rw [value, regrouped, ih, values_eq_map, regroupedList_eq_map, List.map_congr_left ihes]
    rfl

/-- With quoted names, a formula whose operands bind tightly enough means the same as another one
of the same text exactly if the operands of that one do so too. Those are the formulas that are
read back from their text; and a text holds two dashes in a row exactly if a minus stands before an
operand that starts with one, or a name or a data type holds them. -/
theorem Formula.means_the_same_iff (o : FormatOptions) (ho : o.quoteNames = true) :
    (∀ e e' : Expr, e.Formula → e'.Formula → e.format o = e'.format o → e.shown.Exact →
      (∀ d d', .cast d ∈ e.shown.tokens → .cast d' ∈ e'.shown.tokens →
        TypeApart d d' ∧ TypeApart d' d) →
      ((∀ (α : Type) (A : Operators α), A.Regroups .and .and → A.Regroups .or .or →
          ∀ atom, e.value A atom = e'.value A atom) ↔ e'.shown.Exact)) ∧
    (∀ e : Expr, e.Formula →
      (e.format o).toList = e.shown.tokens.flatMap (ExprToken.chars o.preset) ∧
      (e.shown.Exact ↔ (ExprReader.start 1).Reads e.shown.tokens e.shown [])) ∧
    ∀ e : Expr, e.Formula → (['-', '-'] <:+: (e.format o).toList ↔
      e.shown.doublesMinus = true ∨
        ∃ t ∈ e.shown.tokens, ['-', '-'] <:+: t.chars o.preset) := by
  refine ⟨?_, fun e he => ⟨toList_format o ho he.operational, exact_iff_reads e.shown⟩,
    fun e he => he.operational.dashes_iff ho⟩
  intro e e' he he' htext hexact hc
  constructor
  · intro hall
    have hformal := hall Expr Operators.formal (formal_regroups (.inl rfl) rfl)
      (formal_regroups (.inr rfl) rfl) id
    rw [he.value_formal, he'.value_formal] at hformal
    rwa [shown, ← hformal]
  · intro hexact' α A hand hor atom
    have hshown := shown_eq_of_format_eq ho he.operational he'.operational hexact hexact' hc htext
    have hlaws : ∀ {e : Expr}, e.Formula → ∀ p ∈ e.regroupings, A.Regroups p.1 p.2 := by
      intro e he p hp
      rcases he.mem_regroupings hp with rfl | rfl
      · exact hand
      · exact hor
    rw [← value_shown A atom he.operational (hlaws he),
      ← value_shown A atom he'.operational (hlaws he'), hshown]

/-- `NOT a AND b` is the text of `NOT (a AND b)` too, which means something else. -/
theorem Formula.not_and_means_another :
    ({} : FormatOptions).quoteNames = true ∧
    Expr.format {} (.unary .not (.binary (.column none "a") .and (.column none "b"))) =
      Expr.format {} (.binary (.unary .not (.column none "a")) .and (.column none "b")) ∧
    ¬∀ (α : Type) (A : Operators α), A.Regroups .and .and → A.Regroups .or .or → ∀ atom,
      Expr.value A atom (.binary (.unary .not (.column none "a")) .and (.column none "b")) =
        Expr.value A atom (.unary .not (.binary (.column none "a") .and (.column none "b"))) := by
  have hexact : Expr.Exact (.binary (.unary .not (.column none "a")) .and (.column none "b")) :=
    .binary (.unary (.column none "a") (by decide)) (.column none "b") (by decide) (by decide)
  have hloose : ¬Expr.Exact (.unary .not (.binary (.column none "a") .and (.column none "b"))) := by
    rintro (_ | _ | _ | ⟨_, hlevel⟩)
    exact absurd hlevel (by decide)
  refine ⟨rfl, rfl, fun hall => hloose ?_⟩
  exact ((Formula.means_the_same_iff {} rfl).1
    (.binary (.unary .not (.column none "a")) .and (.column none "b"))
    (.unary .not (.binary (.column none "a") .and (.column none "b")))
    (.binary (.unary .not (.column none "a")) (.column none "b") nofun nofun)
    (.unary .not (.binary (.column none "a") (.column none "b") nofun nofun)) rfl hexact
    (by intro d d' hd; simp [shown, regrouped, bracketed, graft, tokens, operand,
      Layout.needsParens] at hd)).mp hall

end Expr

end SqlLoom
