import SqlLoom.Proofs.Operators.Grammar

/-! Where the text of an expression groups its operands. An operand of a binary operator is put in
parentheses unless it binds tightly enough or the operator associates; in the second case the text
is that of the tree that groups to the left. The expression that a text shows is the one grouped so,
with the parentheses as nodes, and expressions that bind tightly everywhere show it in one way. -/
namespace SqlLoom

/-- Whether `a op (b op' c)` is written without parentheses, like `(a op b) op' c`. -/
def Layout.regroups (op op' : BinaryOp) : Bool :=
  associates op && precedence op' == precedence op

namespace Expr

/-- Built from columns with operators and parentheses. -/
inductive Operational : Expr → Prop
  | column (q n) : Operational (.column q n)
  | nested {e} : Operational e → Operational (.nested e)
  | binary {l} (op) {r} : Operational l → Operational r → Operational (.binary l op r)
  | unary (op) {e} : Operational e → Operational (.unary op e)
  | isNull {e} (negated) : Operational e → Operational (.isNull e negated)
  | cast {e} (t) : Operational e → Operational (.cast e t true)
  | between {e l h} (negated) : Operational e → Operational l → Operational h →
    Operational (.between e l h negated)
  | inList {e es} (negated) : Operational e → (∀ x ∈ es, Operational x) →
    Operational (.inList e es negated)

/-- An operand with the parentheses that its place asks for. -/
def operand (op : BinaryOp) (right : Bool) (e written : Expr) : Expr :=
  if Layout.needsParens op right e then .nested written else written

mutual
/-- The expression with the parentheses of its text. -/
def bracketed : Expr → Expr
  | .binary l op r => .binary (operand op false l l.bracketed) op (operand op true r r.bracketed)
  | .unary op e => .unary op e.bracketed
  | .isNull e negated => .isNull e.bracketed negated
  | .between e l h negated => .between e.bracketed l.bracketed h.bracketed negated
  | .inList e es negated => .inList e.bracketed (bracketedList es) negated
  | .cast e t short => .cast e.bracketed t short
  | .nested e => .nested e.bracketed
  | e => e
def bracketedList : List Expr → List Expr
  | [] => []
  | e :: es => e.bracketed :: bracketedList es
end

/-- The left operand moved below the operators of the right one that the text groups with it. -/
def graft (l : Expr) (op : BinaryOp) : Expr → Expr
  | .binary a op' b =>
    if Layout.regroups op op' then .binary (graft l op a) op' b
    else .binary l op (.binary a op' b)
  | r => .binary l op r

mutual
/-- The expression grouped to the left wherever its text is. -/
def regrouped : Expr → Expr
  | .binary l op r => graft l.regrouped op r.regrouped
  | .unary op e => .unary op e.regrouped
  | .isNull e negated => .isNull e.regrouped negated
  | .between e l h negated => .between e.regrouped l.regrouped h.regrouped negated
  | .inList e es negated => .inList e.regrouped (regroupedList es) negated
  | .cast e t short => .cast e.regrouped t short
  | .nested e => .nested e.regrouped
  | e => e
def regroupedList : List Expr → List Expr
  | [] => []
  | e :: es => e.regrouped :: regroupedList es
end

/-- What the text of an expression shows. -/
def shown (e : Expr) : Expr := e.regrouped.bracketed

lemma bracketedList_eq_map (es : List Expr) : bracketedList es = es.map bracketed := by
  induction es with
  | nil => rfl
  | cons e es ih => rw [bracketedList, ih, List.map_cons]

lemma regroupedList_eq_map (es : List Expr) : regroupedList es = es.map regrouped := by
  induction es with
  | nil => rfl
  | cons e es ih => rw [regroupedList, ih, List.map_cons]

end Expr

namespace Layout
open SqlLoom.Expr

lemma exprs_eq_map (d : Nat) (es : List Expr) : exprs d es = es.map (expr d) := by
  induction es with
  | nil => rfl
  | cons e es ih => rw [exprs, ih, List.map_cons]

lemma spelled_operand (op : BinaryOp) (right : Bool) (e written : Expr) :
    spelled (operand op right e written).tokens = operandOf op right e (spelled written.tokens) := by
  rw [operand, operandOf]
  split
  · simp [tokens, parenthesized, ExprToken.pieces, Mark.text]
  · rfl

lemma spelled_intercalate (parts : List (List ExprToken)) :
    spelled (List.intercalate [.mark .comma] parts) = commaed (parts.map spelled) := by
  induction parts with
  | nil => rfl
  | cons part parts ih =>
    cases parts with
    | nil => simp [commaed]
    | cons next parts =>
      rw [List.intercalate_cons_cons, spelled_append, spelled_append, ih]
      simp only [commaed, List.map_cons, List.intercalate_cons_cons]
      rfl

/-- An expression is written as the tokens that it has with its parentheses. -/
lemma expr_eq_spelled (d : Nat) {e : Expr} (h : e.Operational) :
    expr d e = spelled e.bracketed.tokens := by
  induction h with
  | column q n => cases q <;> simp [expr, bracketed, tokens, ExprToken.pieces, qualified]
  | nested _ ih => simp [expr, bracketed, tokens, parenthesized, ExprToken.pieces, Mark.text, ih]
  | binary op _ _ ihl ihr =>
    rw [expr, bracketed, tokens, spelled_append, spelled_cons, spelled_operand, spelled_operand,
      ihl, ihr]
    rfl
  | unary op _ ih => cases op <;> simp [expr, bracketed, tokens, ExprToken.pieces, Mark.text, ih]
  | isNull negated _ ih => simp [expr, bracketed, tokens, ExprToken.pieces, Mark.text, ih]
  | cast t _ ih => simp [expr, bracketed, tokens, ExprToken.pieces, ih]
  | between negated _ _ _ ih ihl ihh =>
    simp [expr, bracketed, tokens, ExprToken.pieces, Mark.text, opText, ih, ihl, ihh]
  | @inList e es negated _ _ ih ihes =>
    have hes : exprs d es = (listTokens (bracketedList es)).map spelled := by
      rw [exprs_eq_map, listTokens_eq_map, bracketedList_eq_map, List.map_map, List.map_map]
      exact List.map_congr_left ihes
    simp [expr, bracketed, tokens, ExprToken.pieces, Mark.text, spelled_intercalate, ih, hes]

end Layout

namespace Expr

lemma graft_of_regroups {op op' : BinaryOp} (h : Layout.regroups op op' = true) (l a b : Expr) :
    graft l op (.binary a op' b) = .binary (graft l op a) op' b := by
  rw [graft, if_pos h]

/-- The tree after grafting has an operator of the same level on top. -/
lemma exists_graft (l : Expr) (op : BinaryOp) (r : Expr) :
    ∃ l' op' r', graft l op r = .binary l' op' r' ∧
      Layout.precedence op' = Layout.precedence op := by
  unfold graft
  split
  · split
    · next h => exact ⟨_, _, _, rfl, by simpa using (Bool.and_eq_true_iff.mp h).2⟩
    · exact ⟨_, _, _, rfl, rfl⟩
  · exact ⟨_, _, _, rfl, rfl⟩

/-- Parentheses depend on the level of the operator on top only. -/
lemma needsParens_congr (parent : BinaryOp) (right : Bool) {l l' r r' : Expr} {op op' : BinaryOp}
    (h : Layout.precedence op = Layout.precedence op') :
    Layout.needsParens parent right (.binary l op r) =
      Layout.needsParens parent right (.binary l' op' r') := by
  simp only [Layout.needsParens, h]

lemma needsParens_graft (parent : BinaryOp) (right : Bool) (l l' r r' : Expr) (op : BinaryOp) :
    Layout.needsParens parent right (graft l op r) =
      Layout.needsParens parent right (.binary l' op r') := by
  obtain ⟨_, _, _, h, hop⟩ := exists_graft l op r
  rw [h, needsParens_congr parent right hop]

lemma needsParens_regrouped (parent : BinaryOp) (right : Bool) {e : Expr} (he : e.Operational) :
    Layout.needsParens parent right e.regrouped = Layout.needsParens parent right e := by
  cases he with
  | binary op _ _ => exact needsParens_graft parent right _ _ _ _ op
  | _ => rfl

/-- An operator that associates asks for parentheses on the right where an operator of its level
does on the left. -/
lemma needsParens_of_regroups {op op' : BinaryOp} (h : Layout.regroups op op' = true) (e : Expr) :
    Layout.needsParens op true e = Layout.needsParens op' false e := by
  cases e with
  | binary l op'' r =>
    cases op <;> cases op' <;> first | exact absurd h (by decide) | (cases op'' <;> rfl)
  | _ => rfl

/-- Grafting changes no text: the tokens of the left operand and its operator stay in front. -/
lemma tokens_bracketed_graft (l : Expr) (op : BinaryOp) (r : Expr) :
    (graft l op r).bracketed.tokens = (binary l op r).bracketed.tokens := by
  fun_induction graft l op r with
  | case1 a op' b h ih =>
    have hb : Layout.needsParens op true (binary a op' b) = false := by
      cases op <;> cases op' <;> first | exact absurd h (by decide) | rfl
    have hl : Layout.needsParens op' false (graft l op a) = false := by
      rw [needsParens_graft op' false l l a a op]
      cases op <;> cases op' <;> first | exact absurd h (by decide) | rfl
    have ha := needsParens_of_regroups h a
    simp only [bracketed, tokens, operand, ha, hb, hl, Bool.false_eq_true, if_false] at ih ⊢
    simp only [ih, List.append_assoc, List.cons_append]
  | case2 => rfl
  | case3 => rfl

/-- Grouping to the left changes no text. -/
lemma tokens_bracketed_regrouped {e : Expr} (h : e.Operational) :
    e.shown.tokens = e.bracketed.tokens := by
  induction h with
  | column q n => rfl
  | binary op hl hr ihl ihr =>
    have hoperand : ∀ {e : Expr} (right : Bool), e.Operational →
        e.shown.tokens = e.bracketed.tokens →
        (operand op right e.regrouped e.shown).tokens = (operand op right e e.bracketed).tokens := by
      intro e right he ih
      simp only [operand, needsParens_regrouped op right he]
      split
      · simp [tokens, ih]
      · exact ih
    rw [shown, regrouped, tokens_bracketed_graft, bracketed, bracketed, tokens, tokens]
    exact congrArg₂ (· ++ ·) (hoperand false hl ihl) (congrArg _ (hoperand true hr ihr))
  | nested _ ih => simpa [shown, regrouped, bracketed, tokens] using ih
  | unary op _ ih => simpa [shown, regrouped, bracketed, tokens] using ih
  | isNull negated _ ih => simpa [shown, regrouped, bracketed, tokens] using ih
  | cast t _ ih => simpa [shown, regrouped, bracketed, tokens] using ih
  | between negated _ _ _ ih ihl ihh =>
    simp only [shown] at ih ihl ihh
    simp only [shown, regrouped, bracketed, tokens, ih, ihl, ihh]
  | @inList e es negated _ _ ih ihes =>
    have hes : listTokens (bracketedList (regroupedList es)) = listTokens (bracketedList es) := by
      simp only [listTokens_eq_map, bracketedList_eq_map, regroupedList_eq_map, List.map_map]
      exact List.map_congr_left ihes
    simp only [shown] at ih
    simp only [shown, regrouped, bracketed, tokens, ih, hes]

/-- The text of an expression is that of what it shows. -/
lemma toList_format (o : FormatOptions) (ho : o.quoteNames = true) {e : Expr}
    (h : e.Operational) : (e.format o).toList = e.shown.tokens.flatMap (ExprToken.chars o.preset) := by
  rw [format, Layout.expr_eq_spelled 0 h, Layout.toList_text_spelled o ho,
    tokens_bracketed_regrouped h]

lemma Operational.graft {l r : Expr} (op : BinaryOp) (hl : l.Operational) (hr : r.Operational) :
    (l.graft op r).Operational := by
  fun_induction Expr.graft l op r with
  | case1 a op' b h ih =>
    cases hr with
    | binary _ ha hb => exact .binary op' (ih ha) hb
  | case2 => exact .binary op hl hr
  | case3 => exact .binary op hl hr

lemma Operational.regrouped {e : Expr} (h : e.Operational) : e.regrouped.Operational := by
  induction h with
  | column q n => exact .column q n
  | nested _ ih => exact .nested ih
  | binary op _ _ ihl ihr => exact ihl.graft op ihr
  | unary op _ ih => exact .unary op ih
  | isNull negated _ ih => exact .isNull negated ih
  | cast t _ ih => exact .cast t ih
  | between negated _ _ _ ih ihl ihh => exact .between negated ih ihl ihh
  | @inList e es negated _ _ ih ihes =>
    rw [Expr.regrouped, regroupedList_eq_map]
    exact .inList negated ih (List.forall_mem_map.mpr ihes)

lemma Operational.operand {e : Expr} (op : BinaryOp) (right : Bool) {written : Expr}
    (h : written.Operational) : (operand op right e written).Operational := by
  rw [Expr.operand]
  split
  · exact .nested h
  · exact h

lemma Operational.bracketed {e : Expr} (h : e.Operational) : e.bracketed.Operational := by
  induction h with
  | column q n => exact .column q n
  | nested _ ih => exact .nested ih
  | binary op _ _ ihl ihr => exact .binary op (ihl.operand op false) (ihr.operand op true)
  | unary op _ ih => exact .unary op ih
  | isNull negated _ ih => exact .isNull negated ih
  | cast t _ ih => exact .cast t ih
  | between negated _ _ _ ih ihl ihh => exact .between negated ih ihl ihh
  | @inList e es negated _ _ ih ihes =>
    rw [Expr.bracketed, bracketedList_eq_map]
    exact .inList negated ih (List.forall_mem_map.mpr ihes)

/-- What can stand behind an operand stands behind every column and every data type. -/
lemma Operational.spaced {e : Expr} (h : e.Operational) : ∀ rest : List ExprToken, Spaced rest →
    (∀ t ∈ rest.head?, t.follows = true) → Spaced (e.tokens ++ rest) := by
  have hmark : ∀ (m : Mark) {ts : List ExprToken}, Spaced ts → Spaced (.mark m :: ts) :=
    fun m _ hts => List.isChain_cons.mpr ⟨fun _ _ hopen => absurd hopen Bool.false_ne_true, hts⟩
  have hfollows : ∀ {m : Mark} {ts : List ExprToken}, m.follows = true →
      ∀ t ∈ (ExprToken.mark m :: ts).head?, t.follows = true := by
    rintro m ts hm t ⟨rfl⟩
    exact hm
  induction h with
  | column q n => exact fun _ hrest hnext => List.isChain_cons.mpr ⟨fun t ht _ => hnext t ht, hrest⟩
  | @nested inner _ ih =>
    intro rest hrest hnext
    have hinner := ih (.mark .closing :: rest) (hmark _ hrest) (hfollows rfl)
    simpa [tokens] using hmark .opening hinner
  | @binary l op r _ _ ihl ihr =>
    intro rest hrest hnext
    have hl := ihl (.mark (.binary op) :: (r.tokens ++ rest))
      (hmark _ (ihr rest hrest hnext)) (hfollows rfl)
    simpa [tokens] using hl
  | unary op _ ih => exact fun rest hrest hnext => hmark _ (ih rest hrest hnext)
  | @isNull e negated _ ih =>
    intro rest hrest hnext
    simpa [tokens] using ih (.mark (.isNull negated) :: rest) (hmark _ hrest) (hfollows rfl)
  | @cast e t _ ih =>
    intro rest hrest hnext
    have hcast : Spaced (.cast t :: rest) :=
      List.isChain_cons.mpr ⟨fun t' ht' _ => hnext t' ht', hrest⟩
    simpa [tokens] using ih (.cast t :: rest) hcast (by rintro t' ⟨rfl⟩; rfl)
  | @between e l h negated _ _ _ ih ihl ihh =>
    intro rest hrest hnext
    have hl := ihl (.mark (.binary .and) :: (h.tokens ++ rest))
      (hmark _ (ihh rest hrest hnext)) (hfollows rfl)
    have he := ih (.mark (.between negated) ::
      (l.tokens ++ .mark (.binary .and) :: (h.tokens ++ rest))) (hmark _ hl) (hfollows rfl)
    simpa [tokens] using he
  | @inList e es negated _ _ ih ihes =>
    intro rest hrest hnext
    -- Behind an item stands the comma before the next one, or the closing parenthesis.
    have hlist : ∀ xs : List Expr, (∀ x ∈ xs, x ∈ es) → Spaced
        (List.intercalate [.mark .comma] (xs.map tokens) ++ .mark .closing :: rest) := by
      intro xs
      induction xs with
      | nil => exact fun _ => hmark _ hrest
      | cons x xs ihxs =>
        intro hxs
        have hmore := ihxs fun y hy => hxs y (List.mem_cons_of_mem x hy)
        cases xs with
        | nil =>
          simpa using ihes x (hxs x (by simp)) (.mark .closing :: rest) (hmark _ hrest)
            (hfollows rfl)
        | cons y ys =>
          have hx := ihes x (hxs x (by simp)) _ (hmark .comma hmore) (hfollows rfl)
          simpa [List.intercalate_cons_cons] using hx
    have he := ih _ (hmark (.inList negated) (hlist es fun _ => id)) (hfollows rfl)
    simpa [tokens, listTokens_eq_map] using he

lemma Operational.shown {e : Expr} (h : e.Operational) : e.shown.Operational :=
  h.regrouped.bracketed

lemma Operational.spaced_shown {e : Expr} (h : e.Operational) : Spaced e.shown.tokens := by
  simpa using h.shown.spaced [] .nil (by simp)

/-- Two expressions whose text keeps their grouping show the same if they have the same text. -/
lemma shown_eq_of_format_eq {o : FormatOptions} (ho : o.quoteNames = true) {e e' : Expr}
    (he : e.Operational) (he' : e'.Operational) (hexact : e.shown.Exact) (hexact' : e'.shown.Exact)
    (hc : ∀ d d', .cast d ∈ e.shown.tokens → .cast d' ∈ e'.shown.tokens →
      TypeApart d d' ∧ TypeApart d' d)
    (h : e.format o = e'.format o) : e.shown = e'.shown := by
  have hchars : e.shown.tokens.flatMap (ExprToken.chars o.preset) =
      e'.shown.tokens.flatMap (ExprToken.chars o.preset) := by
    rw [← toList_format o ho he, ← toList_format o ho he', h]
  have htokens := ExprToken.eq_of_chars_eq he.spaced_shown he'.spaced_shown hc hchars
  have hread := (exact_iff_reads e.shown).mp hexact
  have hread' := (exact_iff_reads e'.shown).mp hexact'
  exact (hread.unique (htokens ▸ hread')).1

/-! Binary operators alone. -/

/-- Built from columns with binary operators. -/
inductive BinaryTree : Expr → Prop
  | column (q n) : BinaryTree (.column q n)
  | binary {l} (op) {r} : BinaryTree l → BinaryTree r → BinaryTree (.binary l op r)

/-- A binary tree with no right operand that its text groups differently. -/
inductive Settled : Expr → Prop
  | column (q n) : Settled (.column q n)
  | binary {l op r} : Settled l → Settled r →
    (∀ a op' b, r = .binary a op' b → Layout.regroups op op' = false) → Settled (.binary l op r)

lemma BinaryTree.operational {e : Expr} (h : e.BinaryTree) : e.Operational := by
  induction h with
  | column q n => exact .column q n
  | binary op _ _ ihl ihr => exact .binary op ihl ihr

lemma Settled.graft {l r : Expr} (op : BinaryOp) (hl : l.Settled) (hr : r.Settled) :
    (l.graft op r).Settled := by
  fun_induction Expr.graft l op r with
  | case1 a op' b h ih =>
    cases hr with
    | binary ha hb hab => exact .binary (ih ha) hb hab
  | case2 a op' b h =>
    refine .binary hl hr ?_
    rintro _ _ _ ⟨⟩
    simpa using h
  | case3 r hne => exact .binary hl hr fun a op' b h => absurd h (hne a op' b)

lemma BinaryTree.settled {e : Expr} (h : e.BinaryTree) : e.regrouped.Settled := by
  induction h with
  | column q n => exact .column q n
  | binary op _ _ ihl ihr => exact ihl.graft op ihr

/-- The level of the operator on top. -/
def topLevel : Expr → Nat
  | .binary _ op _ => Layout.precedence op
  | _ => 10

lemma le_topLevel {op : BinaryOp} {e : Expr} (h : Layout.needsParens op false e = false) :
    Layout.precedence op ≤ e.topLevel := by
  cases e with
  | binary l op' r =>
    simp only [Layout.needsParens, Bool.or_eq_false_iff, decide_eq_false_iff_not, not_lt] at h
    exact h.1
  | _ => exact (precedence_le op).trans (Nat.le_add_right 8 2)

lemma lt_topLevel {op : BinaryOp} {e : Expr} (h : Layout.needsParens op true e = false)
    (hr : ∀ a op' b, e = .binary a op' b → Layout.regroups op op' = false) :
    Layout.precedence op < e.topLevel := by
  cases e with
  | binary l op' r =>
    have hr := hr l op' r rfl
    simp only [topLevel, Layout.needsParens, Layout.regroups] at h hr ⊢
    revert h hr
    cases op <;> cases op' <;> decide
  | _ => exact (precedence_le op).trans_lt (Nat.lt_add_of_pos_right Nat.two_pos)

/-- Every operand of a settled tree binds tightly enough, in its parentheses or without. -/
lemma Settled.exact {e : Expr} (h : e.Settled) :
    e.bracketed.Exact ∧ e.topLevel ≤ e.bracketed.leading ∧ e.topLevel < e.bracketed.trailing := by
  induction h with
  | column q n => exact ⟨.column q n, Nat.le_succ 10, Nat.lt_succ_self 10⟩
  | @binary l op r _ _ hlr ihl ihr =>
    have hl : (operand op false l l.bracketed).Exact ∧
        Layout.precedence op ≤ (operand op false l l.bracketed).leading ∧
        Layout.precedence op < (operand op false l l.bracketed).trailing := by
      rw [operand]
      split
      · exact ⟨.nested ihl.1, (precedence_le op).trans (by simp [leading]),
          (precedence_le op).trans_lt (by simp [trailing])⟩
      · next hparens =>
        have htop := le_topLevel (by simpa using hparens)
        exact ⟨ihl.1, htop.trans ihl.2.1, htop.trans_lt ihl.2.2⟩
    have hr : (operand op true r r.bracketed).Exact ∧
        Layout.precedence op < (operand op true r r.bracketed).leading ∧
        Layout.precedence op < (operand op true r r.bracketed).trailing := by
      rw [operand]
      split
      · exact ⟨.nested ihr.1, (precedence_le op).trans_lt (by simp [leading]),
          (precedence_le op).trans_lt (by simp [trailing])⟩
      · next hparens =>
        have htop := lt_topLevel (by simpa using hparens) hlr
        exact ⟨ihr.1, htop.trans_le ihr.2.1, htop.trans ihr.2.2⟩
    exact ⟨.binary hl.1 hr.1 hl.2.2 hr.2.1, le_min le_rfl hl.2.1,
      lt_min (Nat.lt_succ_self _) hr.2.2⟩

/-- The text of a binary tree keeps its grouping up to the operators that associate. -/
lemma BinaryTree.exact {e : Expr} (h : e.BinaryTree) : e.shown.Exact := h.settled.exact.1

/-- No data types are named in a binary tree. -/
lemma BinaryTree.cast_notMem {e : Expr} (h : e.BinaryTree) (d : String) :
    .cast d ∉ e.shown.tokens := by
  have hoperand : ∀ (op : BinaryOp) (right : Bool) {e written : Expr}, .cast d ∉ written.tokens →
      .cast d ∉ (operand op right e written).tokens := by
    intro op right e written h
    rw [operand]
    split
    · simpa [tokens] using h
    · exact h
  rw [tokens_bracketed_regrouped h.operational]
  induction h with
  | column q n => simp [bracketed, tokens]
  | binary op _ _ ihl ihr =>
    simp only [bracketed, tokens, List.mem_append, List.mem_cons, reduceCtorEq, false_or, not_or]
    exact ⟨hoperand op false ihl, hoperand op true ihr⟩

end Expr

end SqlLoom
