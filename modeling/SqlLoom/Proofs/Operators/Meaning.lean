import SqlLoom.Proofs.Operators.Grouping

/-! What expressions mean under a reading of their operators, and how much of it their text keeps.
A text groups some operators to the left that its expression groups to the right. Where the two
groupings have one value the text keeps the meaning; the level of products is the one where they
need not, because quotients and remainders share it. -/
namespace SqlLoom

/-- A reading of the operators over one domain. -/
structure Operators (α : Type*) where
  binary : BinaryOp → α → α → α
  unary : UnaryOp → α → α
  isNull : Bool → α → α
  between : Bool → α → α → α → α
  inList : Bool → α → List α → α
  cast : String → α → α

namespace Operators
variable {α : Type*}

/-- Both groupings of three operands have one value. -/
def Regroups (A : Operators α) (op op' : BinaryOp) : Prop :=
  ∀ a b c, A.binary op a (A.binary op' b c) = A.binary op' (A.binary op a b) c

structure Lawful (A : Operators α) : Prop where
  and : A.Regroups .and .and
  or : A.Regroups .or .or
  plus : A.Regroups .plus .plus
  multiply : A.Regroups .multiply .multiply
  concat : A.Regroups .concat .concat
  plus_minus : A.Regroups .plus .minus

/-- Quotients and remainders apart, the text groups to the left only where the laws allow it. -/
lemma Lawful.regroups {A : Operators α} (hA : A.Lawful) {op op' : BinaryOp}
    (h : Layout.regroups op op' = true) (hd : (op, op') ≠ (.multiply, .divide))
    (hm : (op, op') ≠ (.multiply, .modulo)) : A.Regroups op op' := by
  cases op <;> cases op' <;> first
    | exact absurd h (by decide)
    | exact absurd rfl hd
    | exact absurd rfl hm
    | exact hA.and
    | exact hA.or
    | exact hA.plus
    | exact hA.multiply
    | exact hA.concat
    | exact hA.plus_minus

end Operators

namespace Expr
variable {α : Type*} (A : Operators α) (atom : Expr → α)

mutual
/-- The value of an expression, given those of the expressions without operators. -/
def value : Expr → α
  | .binary l op r => A.binary op l.value r.value
  | .unary op e => A.unary op e.value
  | .isNull e negated => A.isNull negated e.value
  | .between e l h negated => A.between negated e.value l.value h.value
  | .inList e es negated => A.inList negated e.value (values es)
  | .cast e t true => A.cast t e.value
  | .nested e => e.value
  | e => atom e
def values : List Expr → List α
  | [] => []
  | e :: es => e.value :: values es
end

/-- The pairs of an operator and the operators of its right operand that the text groups with it. -/
def grafted (op : BinaryOp) : Expr → List (BinaryOp × BinaryOp)
  | .binary a op' _ => if Layout.regroups op op' then (op, op') :: grafted op a else []
  | _ => []

mutual
/-- The pairs of operators that the text groups to the left and the expression to the right. -/
def regroupings : Expr → List (BinaryOp × BinaryOp)
  | .binary l op r => l.regroupings ++ r.regroupings ++ grafted op r.regrouped
  | .unary _ e => e.regroupings
  | .isNull e _ => e.regroupings
  | .between e l h _ => e.regroupings ++ l.regroupings ++ h.regroupings
  | .inList e es _ => e.regroupings ++ listRegroupings es
  | .cast e _ _ => e.regroupings
  | .nested e => e.regroupings
  | _ => []
def listRegroupings : List Expr → List (BinaryOp × BinaryOp)
  | [] => []
  | e :: es => e.regroupings ++ listRegroupings es
end

lemma values_eq_map (es : List Expr) : values A atom es = es.map (value A atom) := by
  induction es with
  | nil => rfl
  | cons e es ih => rw [values, ih, List.map_cons]

lemma listRegroupings_eq_flatMap (es : List Expr) :
    listRegroupings es = es.flatMap regroupings := by
  induction es with
  | nil => rfl
  | cons e es ih => rw [listRegroupings, ih, List.flatMap_cons]

/-- Only operators that the text groups to the left are grafted. -/
lemma regroups_of_mem_grafted {op : BinaryOp} {r : Expr} {p : BinaryOp × BinaryOp}
    (h : p ∈ grafted op r) : p.1 = op ∧ Layout.regroups op p.2 = true := by
  fun_induction grafted op r with
  | case1 a op' _ hop ih =>
    rcases List.mem_cons.mp h with rfl | h
    · exact ⟨rfl, hop⟩
    · exact ih h
  | case2 => exact absurd h List.not_mem_nil
  | case3 => exact absurd h List.not_mem_nil

/-- Every pair is one that the text groups to the left. -/
lemma regroups_of_mem_regroupings {e : Expr} (he : e.Operational) {p : BinaryOp × BinaryOp}
    (h : p ∈ e.regroupings) : Layout.regroups p.1 p.2 = true := by
  induction he with
  | column q n => exact absurd h List.not_mem_nil
  | nested _ ih => exact ih h
  | binary op _ _ ihl ihr =>
    simp only [regroupings, List.mem_append] at h
    rcases h with (h | h) | h
    · exact ihl h
    · exact ihr h
    · obtain ⟨hop, hregroups⟩ := regroups_of_mem_grafted h
      exact hop ▸ hregroups
  | unary op _ ih => exact ih h
  | isNull negated _ ih => exact ih h
  | cast t _ ih => exact ih h
  | between negated _ _ _ ih ihl ihh =>
    simp only [regroupings, List.mem_append] at h
    rcases h with (h | h) | h
    · exact ih h
    · exact ihl h
    · exact ihh h
  | inList negated _ _ ih ihes =>
    simp only [regroupings, listRegroupings_eq_flatMap, List.mem_append, List.mem_flatMap] at h
    rcases h with h | ⟨x, hx, h⟩
    · exact ih h
    · exact ihes x hx h

lemma value_graft (l : Expr) {op : BinaryOp} {r : Expr}
    (h : ∀ p ∈ grafted op r, A.Regroups p.1 p.2) :
    (graft l op r).value A atom = A.binary op (l.value A atom) (r.value A atom) := by
  fun_induction graft l op r with
  | case1 a op' b hop ih =>
    rw [grafted, if_pos hop] at h
    have ha := ih fun p hp => h p (List.mem_cons_of_mem _ hp)
    rw [value, value, ha]
    exact (h (op, op') List.mem_cons_self _ _ _).symm
  | case2 => rfl
  | case3 => rfl

/-- Grouping to the left keeps the value where both groupings have one value. -/
lemma value_regrouped {e : Expr} (he : e.Operational)
    (h : ∀ p ∈ e.regroupings, A.Regroups p.1 p.2) :
    e.regrouped.value A atom = e.value A atom := by
  induction he with
  | column q n => rfl
  | nested _ ih => exact ih h
  | binary op _ _ ihl ihr =>
    simp only [regroupings, List.mem_append] at h
    rw [regrouped, value_graft A atom _ fun p hp => h p (.inr hp), value,
      ihl fun p hp => h p (.inl (.inl hp)), ihr fun p hp => h p (.inl (.inr hp))]
  | unary op _ ih => rw [regrouped, value, value, ih h]
  | isNull negated _ ih => rw [regrouped, value, value, ih h]
  | cast t _ ih => rw [regrouped, value, value, ih h]
  | between negated _ _ _ ih ihl ihh =>
    simp only [regroupings, List.mem_append] at h
    rw [regrouped, value, value, ih fun p hp => h p (.inl (.inl hp)),
      ihl fun p hp => h p (.inl (.inr hp)), ihh fun p hp => h p (.inr hp)]
  | inList negated _ _ ih ihes =>
    simp only [regroupings, listRegroupings_eq_flatMap, List.mem_append, List.mem_flatMap] at h
    rw [regrouped, value, value, ih fun p hp => h p (.inl hp), regroupedList_eq_map, values_eq_map,
      values_eq_map, List.map_map]
    exact congrArg _ (List.map_congr_left fun x hx => ihes x hx fun p hp => h p (.inr ⟨x, hx, hp⟩))

lemma value_operand (op : BinaryOp) (right : Bool) (e written : Expr) :
    (operand op right e written).value A atom = written.value A atom := by
  rw [operand]
  split <;> rfl

/-- Parentheses change no value. -/
lemma value_bracketed {e : Expr} (he : e.Operational) :
    e.bracketed.value A atom = e.value A atom := by
  induction he with
  | column q n => rfl
  | nested _ ih => exact ih
  | binary op _ _ ihl ihr =>
    rw [bracketed, value, value, value_operand, value_operand, ihl, ihr]
  | unary op _ ih => rw [bracketed, value, value, ih]
  | isNull negated _ ih => rw [bracketed, value, value, ih]
  | cast t _ ih => rw [bracketed, value, value, ih]
  | between negated _ _ _ ih ihl ihh => rw [bracketed, value, value, ih, ihl, ihh]
  | inList negated _ _ ih ihes =>
    rw [bracketed, value, value, ih, bracketedList_eq_map, values_eq_map, values_eq_map,
      List.map_map]
    exact congrArg _ (List.map_congr_left ihes)

/-- What the text shows has the value of the expression where both groupings have one value. -/
lemma value_shown {e : Expr} (he : e.Operational)
    (h : ∀ p ∈ e.regroupings, A.Regroups p.1 p.2) : e.shown.value A atom = e.value A atom := by
  rw [shown, value_bracketed A atom he.regrouped, value_regrouped A atom he h]

/-- Grouping to the left keeps the text, whatever the laws. -/
lemma format_regrouped (o : FormatOptions) {e : Expr} (he : e.Operational) :
    e.regrouped.format o = e.format o := by
  rw [format, format, Layout.expr_eq_spelled 0 he.regrouped, Layout.expr_eq_spelled 0 he,
    ← tokens_bracketed_regrouped he, shown]

lemma BinaryTree.shown_eq_iff {o : FormatOptions} (ho : o.quoteNames = true) {e e' : Expr}
    (he : e.BinaryTree) (he' : e'.BinaryTree) :
    e.format o = e'.format o ↔ e.shown = e'.shown := by
  constructor
  · exact shown_eq_of_format_eq ho he.operational he'.operational he.exact he'.exact
      fun d _ hd => absurd hd (he.cast_notMem d)
  · intro h
    rw [← String.toList_inj, toList_format o ho he.operational, toList_format o ho he'.operational,
      h]

/-- Three values as those of the columns `a`, `b` and any other. -/
def lettered {α : Type*} (a b c : α) : Expr → α
  | .column _ "a" => a
  | .column _ "b" => b
  | _ => c

/-- With quoted names, two binary trees have one text exactly if they show the same. They then have
one value under lawful operators if neither text takes a product out of a quotient or a remainder
to its right; and one text means one value throughout exactly if products group with quotients and
remainders as they do with products. -/
theorem BinaryTree.value_of_format (hA : A.Lawful) (o : FormatOptions)
    (ho : o.quoteNames = true) :
    (∀ e e' : Expr, e.BinaryTree → e'.BinaryTree →
      (e.format o = e'.format o ↔ e.shown = e'.shown)) ∧
    (∀ e e' : Expr, e.BinaryTree → e'.BinaryTree → e.format o = e'.format o →
      (∀ p ∈ e.regroupings ++ e'.regroupings,
        p ≠ (.multiply, .divide) ∧ p ≠ (.multiply, .modulo)) →
      ∀ atom, e.value A atom = e'.value A atom) ∧
    ((∀ e e' : Expr, e.BinaryTree → e'.BinaryTree → e.format o = e'.format o →
        ∀ atom, e.value A atom = e'.value A atom) ↔
      A.Regroups .multiply .divide ∧ A.Regroups .multiply .modulo) := by
  have hshown := fun e e' (he : BinaryTree e) (he' : BinaryTree e') => shown_eq_iff ho he he'
  -- One text is one shown tree, which has the value of both.
  have hvalue : ∀ e e' : Expr, e.BinaryTree → e'.BinaryTree → e.format o = e'.format o →
      (∀ p ∈ e.regroupings ++ e'.regroupings, A.Regroups p.1 p.2) →
      ∀ atom, e.value A atom = e'.value A atom := by
    intro e e' he he' htext hlaws atom
    rw [← value_shown A atom he.operational fun p hp => hlaws p (List.mem_append_left _ hp),
      ← value_shown A atom he'.operational fun p hp => hlaws p (List.mem_append_right _ hp),
      (hshown e e' he he').mp htext]
  have hregroups : ∀ e e' : Expr, e.BinaryTree → e'.BinaryTree →
      ∀ p ∈ e.regroupings ++ e'.regroupings, Layout.regroups p.1 p.2 = true := by
    intro e e' he he' p hp
    rcases List.mem_append.mp hp with hp | hp
    · exact regroups_of_mem_regroupings he.operational hp
    · exact regroups_of_mem_regroupings he'.operational hp
  refine ⟨hshown, ?_, ?_, ?_⟩
  · intro e e' he he' htext hp
    exact hvalue e e' he he' htext fun p hmem =>
      hA.regroups (hregroups e e' he he' p hmem) (hp p hmem).1 (hp p hmem).2
  · intro hall
    -- The two groupings of three columns have one text.
    have hcolumns : ∀ op, Layout.regroups .multiply op = true → A.Regroups .multiply op := by
      intro op hop a b c
      have htree : (Expr.binary (.column none "a") .multiply
          (.binary (.column none "b") op (.column none "c"))).BinaryTree :=
        .binary _ (.column none "a") (.binary _ (.column none "b") (.column none "c"))
      have hleft : (Expr.binary (.binary (.column none "a") .multiply (.column none "b")) op
          (.column none "c")).BinaryTree :=
        .binary _ (.binary _ (.column none "a") (.column none "b")) (.column none "c")
      have hgroup := graft_of_regroups hop (.column none "a") (.column none "b") (.column none "c")
      have htext := (congrArg (Expr.format o) hgroup).symm.trans
        (format_regrouped o htree.operational)
      exact hall _ _ htree hleft htext.symm (lettered a b c)
    exact ⟨hcolumns .divide rfl, hcolumns .modulo rfl⟩
  · rintro ⟨hd, hm⟩ e e' he he' htext
    refine hvalue e e' he he' htext fun p hp => ?_
    obtain ⟨op, op'⟩ := p
    by_cases hdivide : (op, op') = (.multiply, .divide)
    · obtain ⟨rfl, rfl⟩ := Prod.mk.injEq .. ▸ hdivide
      exact hd
    · by_cases hmodulo : (op, op') = (.multiply, .modulo)
      · obtain ⟨rfl, rfl⟩ := Prod.mk.injEq .. ▸ hmodulo
        exact hm
      · exact hA.regroups (hregroups e e' he he' _ hp) hdivide hmodulo

end Expr

/-- Arithmetic of integers, with truth as one and falsity as zero. -/
def Operators.integers : Operators Int where
  binary
    | .plus => (· + ·)
    | .minus => (· - ·)
    | .multiply => (· * ·)
    | .divide => Int.tdiv
    | .modulo => Int.tmod
    | .and => min
    | .or => max
    | .concat => fun a _ => a
    | _ => fun a b => if a = b then 1 else 0
  unary
    | .minus => (- ·)
    | .plus => id
    | .not => (1 - ·)
  isNull _ _ := 0
  between _ a b c := if b ≤ a ∧ a ≤ c then 1 else 0
  inList _ a as := if a ∈ as then 1 else 0
  cast _ := id

/-- Over the integers a text does not determine the value. -/
theorem Expr.BinaryTree.exists_integers_ne :
    Operators.integers.Lawful ∧ ({} : FormatOptions).quoteNames = true ∧
      ¬∀ e e' : Expr, e.BinaryTree → e'.BinaryTree → e.format {} = e'.format {} →
        ∀ atom, e.value Operators.integers atom = e'.value Operators.integers atom := by
  have hlawful : Operators.integers.Lawful := {
    and := fun a b c => (Int.min_assoc a b c).symm
    or := fun a b c => (Int.max_assoc a b c).symm
    plus := fun a b c => (Int.add_assoc a b c).symm
    multiply := fun a b c => (Int.mul_assoc a b c).symm
    concat := fun _ _ _ => rfl
    plus_minus := fun a b c => (Int.add_sub_assoc a b c).symm }
  refine ⟨hlawful, rfl, fun hall => ?_⟩
  have hdivide := ((BinaryTree.value_of_format Operators.integers hlawful {} rfl).2.2.mp hall).1
  exact absurd (hdivide 2 1 2) (by decide)

end SqlLoom
