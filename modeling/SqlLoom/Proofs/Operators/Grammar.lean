import SqlLoom.Proofs.Operators.Spelling

/-! The grammar of operators: each has a level, the tighter the higher, operators of one level group
to the left, and a prefix stands before all that binds as tightly as it asks. Tokens are read as
one expression at most, and the expressions that their own tokens are read as are those in which
every operand binds tightly enough for its place. -/
namespace SqlLoom

/-- The level that the operand of a prefix must have. -/
def UnaryOp.level : UnaryOp → Nat
  | .not => 3
  | .minus | .plus => 9

namespace ExprToken

/-- The level of an operator behind an operand. Tokens that go on with nothing have level 0. -/
def level : ExprToken → Nat
  | .mark (.binary op) => Layout.precedence op
  | .mark (.isNull _) => 3
  | .mark (.inList _) | .mark (.between _) => 5
  | .cast _ => 10
  | _ => 0

end ExprToken

/-- The level of the operator that tokens go on with. -/
def nextLevel (ts : List ExprToken) : Nat := (ts.head?.map ExprToken.level).getD 0

@[simp] lemma nextLevel_nil : nextLevel [] = 0 := rfl

@[simp] lemma nextLevel_cons (t : ExprToken) (ts : List ExprToken) :
    nextLevel (t :: ts) = t.level := rfl

/-- What a reader of tokens is about to do. -/
inductive ExprReader where
  /-- To read an operand, with every operator of the level or a tighter one behind it. -/
  | start (level : Nat)
  /-- To go on with such operators behind what has been read. -/
  | resume (level : Nat) (left : Expr)
  /-- To read the rest of the list behind `IN`. -/
  | items (level : Nat) (operand : Expr) (negated : Bool) (read : List Expr)

/-- What is read from the front of tokens, and the tokens that are left. -/
inductive ExprReader.Reads : ExprReader → List ExprToken → Expr → List ExprToken → Prop
  | column {k q n ts e rest} : Reads (.resume k (.column q n)) ts e rest →
    Reads (.start k) (.column q n :: ts) e rest
  | group {k ts inner ts' e rest} : Reads (.start 1) ts inner (.mark .closing :: ts') →
    Reads (.resume k (.nested inner)) ts' e rest →
    Reads (.start k) (.mark .opening :: ts) e rest
  | unary {k op ts operand ts' e rest} : Reads (.start op.level) ts operand ts' →
    Reads (.resume k (.unary op operand)) ts' e rest →
    Reads (.start k) (.mark (.unary op) :: ts) e rest
  | stop {k e ts} : nextLevel ts < k → Reads (.resume k e) ts e ts
  | binary {k l op ts r ts' e rest} : k ≤ Layout.precedence op →
    Reads (.start (Layout.precedence op + 1)) ts r ts' →
    Reads (.resume k (.binary l op r)) ts' e rest →
    Reads (.resume k l) (.mark (.binary op) :: ts) e rest
  | isNull {k l negated ts e rest} : k ≤ 3 → Reads (.resume k (.isNull l negated)) ts e rest →
    Reads (.resume k l) (.mark (.isNull negated) :: ts) e rest
  | cast {k l t ts e rest} : k ≤ 10 → Reads (.resume k (.cast l t true)) ts e rest →
    Reads (.resume k l) (.cast t :: ts) e rest
  | between {k l negated ts low ts' high ts'' e rest} : k ≤ 5 →
    Reads (.start 6) ts low (.mark (.binary .and) :: ts') → Reads (.start 6) ts' high ts'' →
    Reads (.resume k (.between l low high negated)) ts'' e rest →
    Reads (.resume k l) (.mark (.between negated) :: ts) e rest
  | inNothing {k l negated ts e rest} : k ≤ 5 →
    Reads (.resume k (.inList l [] negated)) ts e rest →
    Reads (.resume k l) (.mark (.inList negated) :: .mark .closing :: ts) e rest
  | inList {k l negated ts x ts' e rest} : k ≤ 5 → Reads (.start 1) ts x ts' →
    Reads (.items k l negated [x]) ts' e rest →
    Reads (.resume k l) (.mark (.inList negated) :: ts) e rest
  | item {k l negated read ts x ts' e rest} : Reads (.start 1) ts x ts' →
    Reads (.items k l negated (read ++ [x])) ts' e rest →
    Reads (.items k l negated read) (.mark .comma :: ts) e rest
  | endItems {k l negated read ts e rest} :
    Reads (.resume k (.inList l read negated)) ts e rest →
    Reads (.items k l negated read) (.mark .closing :: ts) e rest

namespace ExprReader.Reads

/-- Tokens are read as one expression at most. -/
lemma unique {r : ExprReader} {ts rest rest' : List ExprToken} {e e' : Expr}
    (h : Reads r ts e rest) (h' : Reads r ts e' rest') : e = e' ∧ rest = rest' := by
  induction h generalizing e' rest' with
  | column _ ih =>
    cases h' with
    | column h' => exact ih h'
  | group _ _ ih₁ ih₂ =>
    cases h' with
    | group h₁ h₂ =>
      obtain ⟨rfl, hts⟩ := ih₁ h₁
      cases hts
      exact ih₂ h₂
  | unary _ _ ih₁ ih₂ =>
    cases h' with
    | unary h₁ h₂ =>
      obtain ⟨rfl, rfl⟩ := ih₁ h₁
      exact ih₂ h₂
  | stop hlt =>
    cases h' with
    | stop _ => exact ⟨rfl, rfl⟩
    | _ => simp only [nextLevel_cons, ExprToken.level] at hlt; omega
  | binary hk _ _ ih₁ ih₂ =>
    cases h' with
    | stop hlt => simp only [nextLevel_cons, ExprToken.level] at hlt; omega
    | binary _ h₁ h₂ =>
      obtain ⟨rfl, rfl⟩ := ih₁ h₁
      exact ih₂ h₂
  | isNull hk _ ih =>
    cases h' with
    | stop hlt => simp only [nextLevel_cons, ExprToken.level] at hlt; omega
    | isNull _ h' => exact ih h'
  | cast hk _ ih =>
    cases h' with
    | stop hlt => simp only [nextLevel_cons, ExprToken.level] at hlt; omega
    | cast _ h' => exact ih h'
  | between hk _ _ _ ih₁ ih₂ ih₃ =>
    cases h' with
    | stop hlt => simp only [nextLevel_cons, ExprToken.level] at hlt; omega
    | between _ h₁ h₂ h₃ =>
      obtain ⟨rfl, hts⟩ := ih₁ h₁
      cases hts
      obtain ⟨rfl, rfl⟩ := ih₂ h₂
      exact ih₃ h₃
  | inNothing hk _ ih =>
    cases h' with
    | stop hlt => simp only [nextLevel_cons, ExprToken.level] at hlt; omega
    | inNothing _ h' => exact ih h'
    | inList _ h₁ _ => cases h₁
  | inList hk h₁ _ ih₁ ih₂ =>
    cases h' with
    | stop hlt => simp only [nextLevel_cons, ExprToken.level] at hlt; omega
    | inNothing _ _ => cases h₁
    | inList _ h₁ h₂ =>
      obtain ⟨rfl, rfl⟩ := ih₁ h₁
      exact ih₂ h₂
  | item _ _ ih₁ ih₂ =>
    cases h' with
    | item h₁ h₂ =>
      obtain ⟨rfl, rfl⟩ := ih₁ h₁
      exact ih₂ h₂
  | endItems _ ih =>
    cases h' with
    | endItems h' => exact ih h'

end ExprReader.Reads

namespace Expr

mutual
/-- The tokens of an expression that holds its parentheses itself. -/
def tokens : Expr → List ExprToken
  | .column q n => [.column q n]
  | .binary l op r => l.tokens ++ .mark (.binary op) :: r.tokens
  | .unary op e => .mark (.unary op) :: e.tokens
  | .isNull e negated => e.tokens ++ [.mark (.isNull negated)]
  | .between e l h negated =>
    e.tokens ++ .mark (.between negated) :: l.tokens ++ .mark (.binary .and) :: h.tokens
  | .inList e es negated =>
    e.tokens ++ .mark (.inList negated) :: List.intercalate [.mark .comma] (listTokens es) ++
      [.mark .closing]
  | .cast e t _ => e.tokens ++ [.cast t]
  | .nested e => .mark .opening :: e.tokens ++ [.mark .closing]
  | _ => []
def listTokens : List Expr → List (List ExprToken)
  | [] => []
  | e :: es => e.tokens :: listTokens es
end

/-- The loosest level among the operators that are open to the left: no operator before the
expression may ask for more. -/
def leading : Expr → Nat
  | .binary l op _ => min (Layout.precedence op) l.leading
  | .isNull e _ => min 3 e.leading
  | .between e _ _ _ => min 5 e.leading
  | .inList e _ _ => min 5 e.leading
  | .cast e _ _ => min 10 e.leading
  | _ => 11

/-- The least level that an operator open to the right asks of its operand: what binds as tightly
behind the expression goes to that operator. -/
def trailing : Expr → Nat
  | .binary _ op r => min (Layout.precedence op + 1) r.trailing
  | .unary op e => min op.level e.trailing
  | .between _ _ h _ => min 6 h.trailing
  | _ => 11

/-- Every operand binds tightly enough for its place. -/
inductive Exact : Expr → Prop
  | column (q n) : Exact (.column q n)
  | nested {e} : Exact e → Exact (.nested e)
  | binary {l op r} : Exact l → Exact r → Layout.precedence op < l.trailing →
    Layout.precedence op < r.leading → Exact (.binary l op r)
  | unary {op e} : Exact e → op.level ≤ e.leading → Exact (.unary op e)
  | isNull {e} (negated) : Exact e → 3 < e.trailing → Exact (.isNull e negated)
  | cast {e} (t) : Exact e → 10 < e.trailing → Exact (.cast e t true)
  | between {e l h} (negated) : Exact e → Exact l → Exact h → 5 < e.trailing → 5 < l.leading →
    Layout.precedence .and < l.trailing → 5 < h.leading → Exact (.between e l h negated)
  | inList {e es} (negated) : Exact e → (∀ x ∈ es, Exact x) → 5 < e.trailing →
    Exact (.inList e es negated)

lemma listTokens_eq_map (es : List Expr) : listTokens es = es.map tokens := by
  induction es with
  | nil => rfl
  | cons e es ih => rw [listTokens, ih, List.map_cons]

lemma intercalate_comma (part : List ExprToken) (parts : List (List ExprToken)) :
    List.intercalate [.mark .comma] (part :: parts) = part ++ parts.flatMap (.mark .comma :: ·) := by
  induction parts generalizing part with
  | nil => simp
  | cons next parts ih => simp [List.intercalate_cons_cons, ih next]

lemma intercalate_comma_concat {parts : List (List ExprToken)} (hne : parts ≠ [])
    (part : List ExprToken) :
    List.intercalate [.mark .comma] (parts ++ [part]) =
      List.intercalate [.mark .comma] parts ++ .mark .comma :: part := by
  obtain ⟨first, parts, rfl⟩ := List.exists_cons_of_ne_nil hne
  rw [List.cons_append, intercalate_comma, intercalate_comma, List.flatMap_append,
    List.append_assoc]
  simp

/-- The rest of a list goes on with a comma or ends. -/
lemma nextLevel_items (xs : List Expr) (rest : List ExprToken) :
    nextLevel ((xs.map tokens).flatMap (.mark .comma :: ·) ++ .mark .closing :: rest) = 0 := by
  cases xs <;> rfl

lemma precedence_pos (op : BinaryOp) : 0 < Layout.precedence op := by cases op <;> decide

lemma precedence_le (op : BinaryOp) : Layout.precedence op ≤ 8 := by cases op <;> decide

lemma nextLevel_le (ts : List ExprToken) : nextLevel ts ≤ 10 := by
  cases ts with
  | nil => exact Nat.zero_le 10
  | cons t ts =>
    cases t with
    | column q n => exact Nat.zero_le 10
    | cast t => exact Nat.le_refl 10
    | mark m =>
      cases m with
      | binary op => exact (precedence_le op).trans (by decide)
      | _ => simp [ExprToken.level]

lemma level_bounds (op : UnaryOp) : 0 < op.level ∧ op.level ≤ 9 := by cases op <;> decide

namespace Exact

lemma leading_pos {e : Expr} (h : e.Exact) : 0 < e.leading := by
  induction h with
  | binary _ _ _ _ ihl _ => exact lt_min (precedence_pos _) ihl
  | isNull _ _ _ ih => exact lt_min (by decide) ih
  | cast _ _ _ ih => exact lt_min (by decide) ih
  | between _ _ _ _ _ _ _ _ ih => exact lt_min (by decide) ih
  | inList _ _ _ _ ih => exact lt_min (by decide) ih
  | _ => exact Nat.succ_pos 10

lemma trailing_pos {e : Expr} (h : e.Exact) : 0 < e.trailing := by
  induction h with
  | binary _ _ _ _ _ ihr => exact lt_min (Nat.succ_pos _) ihr
  | unary _ _ ih => exact lt_min (level_bounds _).1 ih
  | between _ _ _ _ _ _ _ _ _ _ ih => exact lt_min (by decide) ih
  | _ => exact Nat.succ_pos 10

/-- The tokens of an exact expression are read as that expression, whatever comes behind it. -/
lemma reads {e : Expr} (h : e.Exact) : ∀ {k : Nat} (rest : List ExprToken)
    {rest' : List ExprToken} {e' : Expr}, k ≤ e.leading → nextLevel rest < e.trailing →
    ExprReader.Reads (.resume k e) rest e' rest' →
      ExprReader.Reads (.start k) (e.tokens ++ rest) e' rest' := by
  induction h with
  | column q n => exact fun _ _ _ _ _ hgo => .column hgo
  | @nested inner hinner ih =>
    intro k rest rest' e' _ _ hgo
    have hin := ih (.mark .closing :: rest) hinner.leading_pos hinner.trailing_pos
      (.stop Nat.one_pos)
    simpa [tokens] using ExprReader.Reads.group hin hgo
  | @binary l op r hl hr hleft hright ihl ihr =>
    intro k rest rest' e' hk hnext hgo
    obtain ⟨hop, hk⟩ := Nat.le_min.mp hk
    obtain ⟨hnext, hnextr⟩ := Nat.lt_min.mp hnext
    have hoperand := ihr rest hright hnextr (.stop hnext)
    have hrest := ihl (.mark (.binary op) :: (r.tokens ++ rest)) hk hleft
      (.binary hop hoperand hgo)
    simpa [tokens] using hrest
  | @unary op e he hop ih =>
    intro k rest rest' e' _ hnext hgo
    obtain ⟨hlevel, hnext⟩ := Nat.lt_min.mp hnext
    exact .unary (ih rest hop hnext (.stop hlevel)) hgo
  | isNull negated _ he ih =>
    intro k rest rest' e' hk _ hgo
    obtain ⟨hk, hke⟩ := Nat.le_min.mp hk
    simpa [tokens] using ih (.mark (.isNull negated) :: rest) hke he (.isNull hk hgo)
  | cast t _ he ih =>
    intro k rest rest' e' hk _ hgo
    obtain ⟨hk, hke⟩ := Nat.le_min.mp hk
    simpa [tokens] using ih (.cast t :: rest) hke he (.cast hk hgo)
  | @between e l h negated _ _ _ he hl hand hh ih ihl ihh =>
    intro k rest rest' e' hk hnext hgo
    obtain ⟨hk, hke⟩ := Nat.le_min.mp hk
    obtain ⟨hlevel, hnext⟩ := Nat.lt_min.mp hnext
    have hhigh := ihh rest hh hnext (.stop hlevel)
    have hlow := ihl (.mark (.binary .and) :: (h.tokens ++ rest)) hl hand
      (.stop (by simp [ExprToken.level, Layout.precedence]))
    have hrest := ih (.mark (.between negated) :: (l.tokens ++ .mark (.binary .and) ::
      (h.tokens ++ rest))) hke he (.between hk hlow hhigh hgo)
    simpa [tokens] using hrest
  | @inList e es negated _ hes he ih ihes =>
    intro k rest rest' e' hk _ hgo
    obtain ⟨hlevel, hleft⟩ := Nat.le_min.mp hk
    have hitem : ∀ x ∈ es, ∀ after, nextLevel after = 0 →
        ExprReader.Reads (.start 1) (x.tokens ++ after) x after :=
      fun x hx after hafter => ihes x hx after (hes x hx).leading_pos
        (hafter ▸ (hes x hx).trailing_pos) (.stop (hafter ▸ Nat.one_pos))
    -- The items behind those that have been read, each after its comma.
    have hitems : ∀ xs read, (∀ x ∈ xs, x ∈ es) →
        ExprReader.Reads (.resume k (.inList e (read ++ xs) negated)) rest e' rest' →
        ExprReader.Reads (.items k e negated read)
          ((xs.map tokens).flatMap (.mark .comma :: ·) ++ .mark .closing :: rest) e' rest' := by
      intro xs
      induction xs with
      | nil => intro read _ hgo; exact .endItems (by simpa using hgo)
      | cons x xs ihxs =>
        intro read hxs hgo
        have hmore := ihxs (read ++ [x]) (fun y hy => hxs y (by simp [hy])) (by simpa using hgo)
        simpa using ExprReader.Reads.item (hitem x (hxs x (by simp)) _ (nextLevel_items xs rest)) hmore
    have hlist : ExprReader.Reads (.resume k e) (.mark (.inList negated) ::
        (List.intercalate [.mark .comma] (listTokens es) ++ .mark .closing :: rest)) e' rest' := by
      cases es with
      | nil => exact .inNothing hlevel hgo
      | cons x xs =>
        have hmore := hitems xs [x] (fun y hy => by simp [hy]) (by simpa using hgo)
        rw [listTokens_eq_map, List.map_cons, intercalate_comma, List.append_assoc]
        exact .inList hlevel (hitem x (by simp) _ (nextLevel_items xs rest)) hmore
    have hrest := ih (.mark (.inList negated) :: (List.intercalate [.mark .comma]
      (listTokens es) ++ .mark .closing :: rest)) hleft he hlist
    simpa [tokens] using hrest

end Exact

end Expr

/-- What a reader from one level on has taken from the tokens and where it has stopped. -/
structure ReadBack (k : Nat) (ts : List ExprToken) (e : Expr) (rest : List ExprToken) : Prop where
  tokens : ts = e.tokens ++ rest
  exact : e.Exact
  leading : k ≤ e.leading
  stops : nextLevel rest < k
  trailing : nextLevel rest < e.trailing

namespace ExprReader

/-- What holds of a reading if what has been read before is exact. -/
def Sound (ts : List ExprToken) (e : Expr) (rest : List ExprToken) : ExprReader → Prop
  | .start k => k ≤ 9 → ReadBack k ts e rest
  | .resume k l => l.Exact → k ≤ l.leading → nextLevel ts < l.trailing →
    ReadBack k (l.tokens ++ ts) e rest
  | .items k l negated read => k ≤ 5 → l.Exact → k ≤ l.leading → 5 < l.trailing →
    (∀ x ∈ read, x.Exact) → read ≠ [] →
    ReadBack k (l.tokens ++ .mark (.inList negated) ::
      (List.intercalate [.mark .comma] (Expr.listTokens read) ++ ts)) e rest

open SqlLoom.Expr

/-- Only exact expressions are read, from the tokens that are theirs. -/
lemma Reads.sound {r : ExprReader} {ts rest : List ExprToken} {e : Expr} (h : Reads r ts e rest) :
    r.Sound ts e rest := by
  induction h with
  | @column k q n ts e rest _ ih =>
    intro hk
    exact ih (.column q n) (by simp only [leading]; omega) (Nat.lt_succ_of_le (nextLevel_le ts))
  | @group k ts inner ts' e rest _ _ ihi ih =>
    intro hk
    have hi : ReadBack 1 ts inner (.mark .closing :: ts') := ihi (by decide)
    have hgo := ih (.nested hi.exact) (by simp only [leading]; omega)
      (Nat.lt_succ_of_le (nextLevel_le ts'))
    simpa [tokens, hi.tokens] using hgo
  | @unary k op ts operand ts' e rest _ _ iho ih =>
    intro hk
    have ho : ReadBack op.level ts operand ts' := iho (level_bounds op).2
    have hgo := ih (.unary ho.exact ho.leading) (by simp only [leading]; omega)
      (Nat.lt_min.mpr ⟨ho.stops, ho.trailing⟩)
    simpa [tokens, ho.tokens] using hgo
  | stop hlt => exact fun he hk hnext => ⟨rfl, he, hk, hlt, hnext⟩
  | @binary k l op ts r ts' e rest hop _ _ ihr ih =>
    intro hl hk hnext
    have hr : ReadBack (Layout.precedence op + 1) ts r ts' :=
      ihr (Nat.succ_le_succ (precedence_le op))
    have hgo := ih (.binary hl hr.exact hnext hr.leading) (Nat.le_min.mpr ⟨hop, hk⟩)
      (Nat.lt_min.mpr ⟨hr.stops, hr.trailing⟩)
    simpa [tokens, hr.tokens] using hgo
  | isNull hlevel _ ih =>
    intro hl hk hnext
    simpa [tokens] using ih (.isNull _ hl hnext) (Nat.le_min.mpr ⟨hlevel, hk⟩)
      (Nat.lt_succ_of_le (nextLevel_le _))
  | cast hlevel _ ih =>
    intro hl hk hnext
    simpa [tokens] using ih (.cast _ hl hnext) (Nat.le_min.mpr ⟨hlevel, hk⟩)
      (Nat.lt_succ_of_le (nextLevel_le _))
  | @between k l negated ts low ts' high ts'' e rest hlevel _ _ _ ihl ihh ih =>
    intro hl hk hnext
    have hlow : ReadBack 6 ts low (.mark (.binary .and) :: ts') := ihl (by decide)
    have hhigh : ReadBack 6 ts' high ts'' := ihh (by decide)
    have hgo := ih (.between negated hl hlow.exact hhigh.exact hnext hlow.leading hlow.trailing
      hhigh.leading) (Nat.le_min.mpr ⟨hlevel, hk⟩) (Nat.lt_min.mpr ⟨hhigh.stops, hhigh.trailing⟩)
    simpa [tokens, hlow.tokens, hhigh.tokens] using hgo
  | inNothing hlevel _ ih =>
    intro hl hk hnext
    simpa [tokens, listTokens] using ih (.inList _ hl (by simp) hnext)
      (Nat.le_min.mpr ⟨hlevel, hk⟩) (Nat.lt_succ_of_le (nextLevel_le _))
  | @inList k l negated ts x ts' e rest hlevel _ _ ihx ih =>
    intro hl hk hnext
    have hx : ReadBack 1 ts x ts' := ihx (by decide)
    have hgo := ih hlevel hl hk hnext (by simpa using hx.exact) (by simp)
    simpa [listTokens, hx.tokens] using hgo
  | @item k l negated read ts x ts' e rest _ _ ihx ih =>
    intro hlevel hl hk hnext hread hne
    have hx : ReadBack 1 ts x ts' := ihx (by decide)
    have hgo := ih hlevel hl hk hnext (by
      intro y hy
      rcases List.mem_append.mp hy with hy | hy
      · exact hread y hy
      · exact List.mem_singleton.mp hy ▸ hx.exact) (by simp)
    rw [listTokens_eq_map, List.map_append, List.map_singleton,
      intercalate_comma_concat (by simpa using hne)] at hgo
    simpa [listTokens_eq_map, hx.tokens] using hgo
  | endItems _ ih =>
    intro hlevel hl hk hnext hread _
    simpa [tokens] using ih (.inList _ hl hread hnext) (Nat.le_min.mpr ⟨hlevel, hk⟩)
      (Nat.lt_succ_of_le (nextLevel_le _))

end ExprReader

/-- An expression is read from its own tokens if and only if it is exact. -/
lemma Expr.exact_iff_reads (e : Expr) : e.Exact ↔ (ExprReader.start 1).Reads e.tokens e [] := by
  constructor
  · intro h
    simpa using h.reads [] h.leading_pos h.trailing_pos (.stop Nat.one_pos)
  · exact fun h => (h.sound (by decide)).exact

end SqlLoom
