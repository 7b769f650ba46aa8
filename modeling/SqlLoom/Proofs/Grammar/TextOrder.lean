import SqlLoom.Proofs.Grammar.Numbering

/-! When placeholders without a name are numbered in the order of the text. Two parts of a statement
are read the other way round: the branches of a CASE are read before its operand, and the condition
of a join before the entry that is joined. -/
namespace SqlLoom.Grammar

/-- How many placeholders are numbered, and whether nowhere both of two crossed parts have any. -/
structure Tally (α : Type) where
  count : Nat
  ordered : Bool
  ordered_of_count_eq_zero : count = 0 → ordered = true

namespace Tally

section
variable {α β : Type} {a : Tally α} {b : Tally β}

lemma both_ordered (h : a.count + b.count = 0) : (a.ordered && b.ordered) = true := by
  rw [a.ordered_of_count_eq_zero (by omega), b.ordered_of_count_eq_zero (by omega)]
  rfl

lemma crossed_ordered (h : a.count + b.count = 0) :
    (a.ordered && b.ordered && (a.count == 0 || b.count == 0)) = true := by
  have ha : a.count = 0 := by omega
  rw [both_ordered h, ha]
  rfl

end

def sweep : Sweep Tally where
  still _ := ⟨0, true, fun _ => rfl⟩
  map _ a := ⟨a.count, a.ordered, a.ordered_of_count_eq_zero⟩
  both a b := ⟨a.count + b.count, a.ordered && b.ordered, both_ordered⟩
  crossed a b :=
    ⟨a.count + b.count, a.ordered && b.ordered && (a.count == 0 || b.count == 0), crossed_ordered⟩
  placeholder := ⟨1, true, fun _ => rfl⟩

section
variable {α β : Type} (a : Tally α) (b : Tally β)

@[simp] lemma count_both : (sweep.both a b).count = a.count + b.count := rfl

@[simp] lemma ordered_both : (sweep.both a b).ordered = (a.ordered && b.ordered) := rfl

@[simp] lemma count_crossed : (sweep.crossed a b).count = a.count + b.count := rfl

@[simp] lemma ordered_crossed : (sweep.crossed a b).ordered =
    (a.ordered && b.ordered && (a.count == 0 || b.count == 0)) := rfl

end

end Tally

namespace Numbering

lemma name_inj {m n : Nat} : name m = name n ↔ m = n := by
  refine ⟨fun h => ?_, fun h => h ▸ rfl⟩
  have hdigits : Nat.toDigits 10 m = Nat.toDigits 10 n := by
    simpa [name, Nat.repr] using congrArg String.toList h
  have hmn := congrArg (fun digits => Nat.ofDigitChars 10 digits 0) hdigits
  simpa only [Nat.ofDigitChars_ten_toDigits] using hmn

/-- Both orders number all placeholders that the tally counts, and they give the same tree from
counts that are the same if the tally finds no crossed parts. -/
structure Tallied {α : Type} (s : ∀ F, Sweep F → F α) : Prop where
  written_count : ∀ n, (s _ written n).2 = n + (s _ Tally.sweep).count
  asRead_count : ∀ n, (s _ asRead n).2 = n + (s _ Tally.sweep).count
  eq_iff : ∀ m n, (s _ written m).1 = (s _ asRead n).1 ↔
    (s _ Tally.sweep).count = 0 ∨ m = n ∧ (s _ Tally.sweep).ordered = true

namespace Tallied

variable {α β : Type} {s : ∀ F, Sweep F → F α} {s' : ∀ F, Sweep F → F β}

lemma still (x : α) : Tallied fun _ w => w.still x where
  written_count _ := rfl
  asRead_count _ := rfl
  eq_iff _ _ := ⟨fun _ => .inl rfl, fun _ => rfl⟩

lemma map {g : α → β} (h : Tallied s) (hg : ∀ x y, g x = g y → x = y := by grind) :
    Tallied fun F w => w.map g (s F w) where
  written_count := h.written_count
  asRead_count := h.asRead_count
  eq_iff m n := Iff.trans ⟨hg _ _, congrArg g⟩ (h.eq_iff m n)

lemma both (h : Tallied s) (h' : Tallied s') : Tallied fun F w => w.both (s F w) (s' F w) where
  written_count n := by
    refine (h'.written_count _).trans ?_
    rw [h.written_count, Nat.add_assoc]
    rfl
  asRead_count n := by
    refine (h'.asRead_count _).trans ?_
    rw [h.asRead_count, Nat.add_assoc]
    rfl
  eq_iff m n := by
    have hz := (s _ Tally.sweep).ordered_of_count_eq_zero
    have hz' := (s' _ Tally.sweep).ordered_of_count_eq_zero
    refine Iff.trans (Prod.ext_iff.trans (and_congr (h.eq_iff m n) (h'.eq_iff _ _))) ?_
    rw [h.written_count, h.asRead_count]
    simp only [Tally.count_both, Tally.ordered_both, Bool.and_eq_true]
    grind

lemma crossed (h : Tallied s) (h' : Tallied s') :
    Tallied fun F w => w.crossed (s F w) (s' F w) where
  written_count n := by
    refine (h'.written_count _).trans ?_
    rw [h.written_count, Nat.add_assoc]
    rfl
  asRead_count n := by
    refine (h.asRead_count _).trans ?_
    rw [h'.asRead_count, Nat.add_assoc, Nat.add_comm (s' _ Tally.sweep).count]
    rfl
  eq_iff m n := by
    have hz := (s _ Tally.sweep).ordered_of_count_eq_zero
    have hz' := (s' _ Tally.sweep).ordered_of_count_eq_zero
    refine Iff.trans (Prod.ext_iff.trans (and_congr (h.eq_iff m _) (h'.eq_iff _ n))) ?_
    rw [h.written_count, h'.asRead_count]
    simp only [Tally.count_crossed, Tally.ordered_crossed, Bool.and_eq_true, Bool.or_eq_true,
      beq_iff_eq]
    grind

end Tallied

lemma tallied_value (v : Value) : Tallied fun _ w => w.value v := by
  cases v with
  | placeholder s =>
    by_cases hs : s = "?"
    · subst hs
      exact .map
        { written_count := fun _ => rfl
          asRead_count := fun _ => rfl
          eq_iff := fun m n => by simp [written, asRead, Tally.sweep, name_inj] }
    · simp only [Sweep.value, if_neg hs]
      exact .map (.still _)
  | _ => exact .still _

mutual

lemma tallied_expr : (e : Expr) → Tallied fun _ w => w.expr e
  | .ident _ => .still _
  | .compound _ => .still _
  | .wildcard _ => .still _
  | .qualifiedWildcard _ _ => .still _
  | .value v => .map (tallied_value v)
  | .binary l _ r => .map (.both (tallied_expr l) (tallied_expr r))
  | .like e p _ _ _ none => .map (.both (tallied_expr e) (tallied_expr p))
  | .like _ _ _ _ _ (some _) => .still _
  | .unary _ e => .map (tallied_expr e)
  | .call c => .map (tallied_call c)
  | .case o bs e =>
    .map (.both (.crossed (tallied_expr? o) (tallied_branches bs)) (tallied_expr? e))
  | .subquery q => .map (tallied_query q)
  | .exists q _ => .map (tallied_query q)
  | .inList e es _ => .map (.both (tallied_expr e) (tallied_exprs es))
  | .inSubquery e q _ => .map (.both (tallied_expr e) (tallied_query q))
  | .between e l h _ =>
    .map (.both (tallied_expr e) (.both (tallied_expr l) (tallied_expr h)))
  | .isNull e _ => .map (tallied_expr e)
  | .cast e _ _ _ _ => .map (tallied_expr e)
  | .nested e => .map (tallied_expr e)
  | .tuple es => .map (tallied_exprs es)
  | .array es _ => .map (tallied_exprs es)
  | .raw _ _ => .still _

lemma tallied_exprs : (es : List Expr) → Tallied fun _ w => w.exprs es
  | [] => .still _
  | e :: es => .map (.both (tallied_expr e) (tallied_exprs es))

lemma tallied_expr? : (e : Option Expr) → Tallied fun _ w => w.expr? e
  | some e => .map (tallied_expr e)
  | none => .still _

lemma tallied_branches : (bs : List (Expr × Expr)) → Tallied fun _ w => w.branches bs
  | [] => .still _
  | (c, r) :: bs => .map (.both (tallied_expr c) (.both (tallied_expr r) (tallied_branches bs)))

lemma tallied_call : (c : Call) → Tallied fun _ w => w.call c
  | ⟨_, _, _, .list _ as [], _, f, _, win⟩ =>
    .map (.both (tallied_args as) (.both (tallied_expr? f) (tallied_window win)))
  | ⟨_, _, _, .none, _, f, _, win⟩ => .map (.both (tallied_expr? f) (tallied_window win))
  | ⟨_, _, _, .query q, _, f, _, win⟩ =>
    .map (.both (tallied_query q) (.both (tallied_expr? f) (tallied_window win)))
  | ⟨_, _, _, .list _ _ (_ :: _), _, _, _, _⟩ => .still _

lemma tallied_args : (as : List Arg) → Tallied fun _ w => w.args as
  | [] => .still _
  | a :: as => .map (.both (tallied_arg a) (tallied_args as))

lemma tallied_arg : (a : Arg) → Tallied fun _ w => w.arg a
  | .expr e => .map (tallied_expr e)
  | .wildcard => .still _
  | .qualified _ => .still _
  | .named _ _ => .still _

lemma tallied_window : (win : Option Window) → Tallied fun _ w => w.window win
  | none => .still _
  | some (.named _) => .still _
  | some (.spec _ ps os _) => .map (.both (tallied_exprs ps) (tallied_orderItems os))

lemma tallied_orderItems : (os : List OrderItem) → Tallied fun _ w => w.orderItems os
  | [] => .still _
  | ⟨e, _, _, _, _, _, _⟩ :: os => .map (.both (tallied_expr e) (tallied_orderItems os))

lemma tallied_selectItems : (is : List SelectItem) → Tallied fun _ w => w.selectItems is
  | [] => .still _
  | .expr e _ :: is => .map (.both (tallied_expr e) (tallied_selectItems is))
  | .wildcard _ _ :: is => .map (tallied_selectItems is)
  | .qualifiedWildcard _ _ _ :: is => .map (tallied_selectItems is)

lemma tallied_factor : (r : Factor) → Tallied fun _ w => w.factor r
  | .table _ _ none _ _ _ => .still _
  | .table _ _ (some ⟨as, _⟩) _ _ _ => .map (tallied_args as)
  | .derived _ q _ => .map (tallied_query q)
  | .function e _ => .map (tallied_expr e)
  | .joined _ _ => .still _
  | .other _ _ _ => .still _

lemma tallied_constraint : (c : Constraint) → Tallied fun _ w => w.constraint c
  | .on e => .map (tallied_expr e)
  | .using _ => .still _
  | .natural => .still _
  | .none => .still _

lemma tallied_joins : (js : List Join) → Tallied fun _ w => w.joins js
  | [] => .still _
  | ⟨_, r, c, _, _⟩ :: js =>
    .map (.both (.crossed (tallied_factor r) (tallied_constraint c)) (tallied_joins js))

lemma tallied_tables : (ts : List TableWithJoins) → Tallied fun _ w => w.tables ts
  | [] => .still _
  | ⟨r, js⟩ :: ts =>
    .map (.both (tallied_factor r) (.both (tallied_joins js) (tallied_tables ts)))

lemma tallied_grouping : (g : GroupBy) → Tallied fun _ w => w.grouping g
  | .exprs es _ => .map (tallied_exprs es)
  | .all _ => .still _

lemma tallied_select : (s : Select) → Tallied fun _ w => w.select s
  | ⟨_, _, _, is, _, ts, _, f, g, _, h, _, _⟩ =>
    .map (.both (tallied_selectItems is) (.both (tallied_tables ts)
      (.both (tallied_expr? f) (.both (tallied_grouping g) (tallied_expr? h)))))

lemma tallied_rows : (rs : List (List Expr)) → Tallied fun _ w => w.rows rs
  | [] => .still _
  | r :: rs => .map (.both (tallied_exprs r) (tallied_rows rs))

lemma tallied_setExpr : (b : SetExpr) → Tallied fun _ w => w.setExpr b
  | .select s => .map (tallied_select s)
  | .query q => .map (tallied_query q)
  | .setOp l _ _ r => .map (.both (tallied_setExpr l) (tallied_setExpr r))
  | .values _ rs => .map (tallied_rows rs)
  | .other _ => .still _

lemma tallied_commonTables : (ts : List CommonTable) → Tallied fun _ w => w.commonTables ts
  | [] => .still _
  | ⟨_, _, q, _, _⟩ :: ts => .map (.both (tallied_query q) (tallied_commonTables ts))

lemma tallied_withClause : (c : Option With) → Tallied fun _ w => w.withClause c
  | none => .still _
  | some ⟨_, _, ts⟩ => .map (tallied_commonTables ts)

lemma tallied_query : (q : Query) → Tallied fun _ w => w.query q
  | ⟨c, b, os, _, l, o, _, _⟩ =>
    .map (.both (tallied_withClause c) (.both (tallied_setExpr b)
      (.both (tallied_orderItems os) (.both (tallied_expr? l) (tallied_expr? o)))))

lemma tallied_insertSource : (q : Option Query) → Tallied fun _ w => w.insertSource q
  | none => .still _
  | some q => by
    simp only [Sweep.insertSource]
    split
    · exact .map (tallied_setExpr q.body)
    · exact .map (tallied_query q)

lemma tallied_insert : (i : Insert) → Tallied fun _ w => w.insert i
  | ⟨_, _, _, _, _, source, _, returning⟩ =>
    .map (.both (tallied_insertSource source) (tallied_selectItems returning))

lemma tallied_assignments : (as : List Assignment) → Tallied fun _ w => w.assignments as
  | [] => .still _
  | ⟨_, e⟩ :: as => .map (.both (tallied_expr e) (tallied_assignments as))

lemma tallied_update : (u : Update) → Tallied fun _ w => w.update u
  | ⟨_, ⟨r, _⟩, as, _, f, returning⟩ =>
    .map (.both (tallied_factor r) (.both (tallied_assignments as)
      (.both (tallied_expr? f) (tallied_selectItems returning))))

lemma tallied_sources : (ts : List TableWithJoins) → Tallied fun _ w => w.sources ts
  | [] => .still _
  | ⟨r, _⟩ :: ts => .map (.both (tallied_factor r) (tallied_sources ts))

lemma tallied_delete : (d : Delete) → Tallied fun _ w => w.delete d
  | ⟨[], _, _, _⟩ => .still _
  | ⟨⟨r, _⟩ :: _, usings, f, returning⟩ =>
    .map (.both (tallied_factor r) (.both (tallied_sources usings)
      (.both (tallied_expr? f) (tallied_selectItems returning))))

lemma tallied_createTable : (c : CreateTable) → Tallied fun _ w => w.createTable c
  | ⟨_, _, _, _, _, some q⟩ => .map (tallied_query q)
  | ⟨_, _, _, _, _, none⟩ => .still _

lemma tallied_statement : (t : Statement) → Tallied fun _ w => w.statement t
  | .query q => .map (tallied_query q)
  | .insert i => .map (tallied_insert i)
  | .update u => .map (tallied_update u)
  | .delete d => .map (tallied_delete d)
  | .createTable c => .map (tallied_createTable c)
  | .other _ => .still _

end

end Numbering

namespace Statement

/-- How many placeholders are given a number. -/
def placeholders (t : Statement) : Nat := (Tally.sweep.statement t).count

/-- No CASE has placeholders both in its operand and in its branches, and no join both in the entry
that is joined and in its condition. -/
def NumberedInOrder (t : Statement) : Prop := (Tally.sweep.statement t).ordered = true

/-- The statement with the `k`-th placeholder of the text written as number `n + k`. -/
def numbered (t : Statement) (n : Nat) : Statement := (Numbering.written.statement t n).1

/-- The statement with each placeholder written as the number under which it is read. -/
def numberedAsRead (t : Statement) (n : Nat) : Statement := (Numbering.asRead.statement t n).1

end Statement

/-- Reading a statement gives each placeholder without a name a number, and nothing else comes of
it: the statement stands for the same when every placeholder is written as its number. The numbers
are those of the text, the `k`-th placeholder having the `k`-th number, exactly if nowhere both of
two parts that are read the other way round have placeholders. -/
theorem Denote.statement_numbered (t : Statement) (n : Nat) :
    (∀ s m, (Denote.statement t).run n = .ok (s, m) ↔ m = n + t.placeholders ∧
      ∀ k, (Denote.statement (t.numberedAsRead n)).run k = .ok (s, k)) ∧
    (t.numberedAsRead n = t.numbered n ↔ t.NumberedInOrder) := by
  have hok : ∀ {α : Type} (x : Result α) (y : α), x = .ok y ↔ x.toOption = some y := by
    rintro _ (_ | _) y <;> simp [Except.toOption]
  have htally := Numbering.tallied_statement t
  constructor
  · intro s m
    obtain ⟨o, ho, ho'⟩ := Numbering.reads_statement t n
    rw [htally.asRead_count] at ho
    simp only [hok, ho, Statement.numberedAsRead, ho', Option.map_eq_some_iff, Prod.mk.injEq]
    constructor
    · rintro ⟨s, hs, rfl, rfl⟩
      exact ⟨rfl, fun _ => ⟨s, hs, rfl, trivial⟩⟩
    · rintro ⟨rfl, h⟩
      obtain ⟨s, hs, rfl, -⟩ := h 0
      exact ⟨s, hs, rfl, rfl⟩
  · rw [eq_comm]
    refine (htally.eq_iff n n).trans ⟨?_, fun h => .inr ⟨rfl, h⟩⟩
    rintro (h | ⟨-, h⟩)
    · exact (Tally.sweep.statement t).ordered_of_count_eq_zero h
    · exact h

/-- The operand of a CASE is written first and read last. -/
example : (Numbering.asRead.expr (.case (some (.value (.placeholder "?")))
    [(.value (.placeholder "?"), .value (.placeholder "?"))] none) 0).1 =
    .case (some (.value (.placeholder ":p3")))
      [(.value (.placeholder ":p1"), .value (.placeholder ":p2"))] none := by rfl

end SqlLoom.Grammar
