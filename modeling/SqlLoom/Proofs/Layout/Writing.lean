import Mathlib.Data.List.Forall2
import SqlLoom.Proofs.Layout.Front
import SqlLoom.Writing

/-! A statement written in one go gives the text of its pieces. The state is followed part by part:
a part registers the parameters of its pieces, keeps the first clash, and comes back to the depth
that it started from. -/
namespace SqlLoom

namespace Layout

lemma registered_append (r : Registry) (ps qs : List Piece) :
    registered r (ps ++ qs) = registered (registered r ps) qs := by
  simp [registered]

/-! Only placeholders and clashes change the state. -/
section
variable {ps qs : List Piece} (h : marks ps = marks qs)
include h

lemma occurrences_congr : occurrences ps = occurrences qs := by
  rw [← occurrences_marks, h, occurrences_marks]

lemma registered_congr (r : Registry) : registered r ps = registered r qs := by
  rw [registered, registered, occurrences_congr h]

lemma clash?_congr : clash? ps = clash? qs := by
  rw [← clash?_marks, h, clash?_marks]

end

lemma registered_of_silent {ps : List Piece} (h : marks ps = []) (r : Registry) :
    registered r ps = r := registered_congr (h.trans marks_nil.symm) r

lemma clash?_of_silent {ps : List Piece} (h : marks ps = []) : clash? ps = none :=
  clash?_congr (h.trans marks_nil.symm)

/-- The text of each part, with the parameters of those before it registered. -/
def partTexts (o : FormatOptions) (r : Registry) : List (List Piece) → List String
  | [] => []
  | ps :: pss => String.join (texts o r ps) :: partTexts o (registered r ps) pss

lemma texts_intercalate (o : FormatOptions) {sep : List Piece} (hsep : marks sep = [])
    (r r' : Registry) (pss : List (List Piece)) :
    String.join (texts o r (List.intercalate sep pss)) =
      (String.join (texts o r' sep)).intercalate (partTexts o r pss) := by
  induction pss generalizing r with
  | nil => rfl
  | cons ps pss ih =>
    cases pss with
    | nil => simp [partTexts]
    | cons qs pss =>
      have hsame : texts o (registered r ps) sep = texts o r' sep :=
        texts_of_occurrences_eq_nil o _ r' (occurrences_congr (hsep.trans marks_nil.symm))
      rw [List.intercalate_cons_cons, List.append_assoc, texts_append, texts_append,
        String.join_append, String.join_append, registered_of_silent hsep, ih, hsame]
      simp only [partTexts, String.intercalate_cons_cons, String.append_assoc]

lemma isEmpty_modifiers (d : Nat) (os : List OrderItem) (l k : Option Expr) :
    (listed "ORDER BY " (order d os) ++ clause d "LIMIT " l ++ clause d "OFFSET " k).isEmpty =
      (os.isEmpty && l.isNone && k.isNone) := by
  rcases os with _ | ⟨⟨_, _, _⟩, _⟩ <;> cases l <;> cases k <;> rfl

lemma indent_succ (d : Nat) : indent (d + 1) = indent d ++ indent 1 := by
  rw [indent, indent, indent, ← String.ofList_append, List.replicate_append_replicate]
  rfl

end Layout

namespace Writing

open Layout (clash? marks registered texts)

/-- Started at depth `d`, the writing does what writing the pieces in order does. -/
def Writes (o : FormatOptions) (d : Nat) (w : Writing String) (ps : List Piece) : Prop :=
  ∀ r c, w.run ⟨r, d, c⟩ =
    pure (String.join (texts o r ps), ⟨registered r ps, d, c.or (clash? ps)⟩)

section
variable {o : FormatOptions} {d : Nat} {v w : Writing String} {ps qs : List Piece}
  {ws : List (Writing String)} {pss : List (List Piece)}

lemma Writes.append (hv : Writes o d v ps) (hw : Writes o d w qs) :
    Writes o d (v ++ w) (ps ++ qs) := by
  intro r c
  change StateT.run (do
    let a ← v
    let b ← w
    return a ++ b) _ = _
  simp only [StateT.run_bind, StateT.run_pure, hv _ _, hw _ _, pure_bind,
    Layout.texts_append, String.join_append, Layout.registered_append, Layout.clash?_append,
    Option.or_assoc]

lemma writes_of_silent (hps : marks ps = [])
    (hw : ∀ r c, w.run ⟨r, d, c⟩ = pure (String.join (texts o r ps), ⟨r, d, c⟩)) :
    Writes o d w ps := by
  intro r c
  rw [hw, Layout.registered_of_silent hps, Layout.clash?_of_silent hps, Option.or_none]

/-- The same text may be made of other pieces. -/
lemma Writes.of_text (h : Writes o d w ps) (hmarks : marks ps = marks qs)
    (htext : ∀ r, String.join (texts o r ps) = String.join (texts o r qs)) : Writes o d w qs := by
  intro r c
  rw [h, htext, Layout.registered_congr hmarks, Layout.clash?_congr hmarks]

lemma writes_empty : Writes o d (word "") [] := writes_of_silent rfl fun _ _ => rfl

lemma writes_word (s : String) : Writes o d (word s) [.word s] :=
  writes_of_silent rfl fun r c => by simp [word, texts, Layout.pieceText, String.join_cons]

lemma writes_name (s : String) : Writes o d (name o s) [.name s] :=
  writes_of_silent rfl fun r c => by simp [name, texts, Layout.pieceText, String.join_cons]

lemma writes_separator : Writes o d (separator o) [.gap d] :=
  writes_of_silent rfl fun r c => by simp [separator, texts, Layout.pieceText, String.join_cons]

lemma writes_placeholder (a : Occurrence) : Writes o d (placeholder o a) [.slot a] := by
  intro r c
  simp [placeholder, texts, Layout.pieceText, String.join_cons, registered, Layout.occurrences,
    clash?]

/-- A word in between. -/
lemma Writes.append_word (hv : Writes o d v ps) (s : String) (hw : Writes o d w qs) :
    Writes o d (v ++ word s ++ w) (ps ++ .word s :: qs) := by
  simpa using (hv.append (writes_word s)).append hw

lemma run_each (h : List.Forall₂ (Writes o d) ws pss) (r : Registry) (c : Option String) :
    (each ws).run ⟨r, d, c⟩ =
      pure (Layout.partTexts o r pss,
        ⟨registered r pss.flatten, d, c.or (clash? pss.flatten)⟩) := by
  induction h generalizing r c with
  | nil => simp [each, Layout.partTexts, registered, Layout.occurrences, clash?]
  | cons hw _ ih =>
    simp only [each, StateT.run_bind, StateT.run_pure, hw _ _, ih, pure_bind, Layout.partTexts,
      List.flatten_cons, Layout.registered_append, Layout.clash?_append, Option.or_assoc]

lemma writes_joined {between : Writing String} {sep : List Piece} (hb : Writes o d between sep)
    (hsep : marks sep = []) (h : List.Forall₂ (Writes o d) ws pss) :
    Writes o d (joined between ws) (List.intercalate sep pss) := by
  intro r c
  simp only [joined, StateT.run_bind, StateT.run_pure, run_each h, hb _ _, pure_bind,
    Layout.registered_of_silent hsep, Layout.clash?_of_silent hsep, Option.or_none,
    ← Layout.texts_intercalate o hsep,
    Layout.registered_congr (Layout.marks_intercalate hsep pss),
    Layout.clash?_congr (Layout.marks_intercalate hsep pss)]

lemma writes_commaed (h : List.Forall₂ (Writes o d) ws pss) :
    Writes o d (commaed ws) (Layout.commaed pss) := writes_joined (writes_word ", ") rfl h

lemma writes_stacked (h : List.Forall₂ (Writes o d) ws pss) :
    Writes o d (stacked o ws) (Layout.stacked d pss) := writes_joined writes_separator rfl h

lemma Writes.parenthesized (h : Writes o d w ps) :
    Writes o d (parenthesized w) (Layout.parenthesized ps) :=
  ((writes_word "(").append h).append (writes_word ")")

lemma Writes.operandOf (parent : BinaryOp) (right : Bool) (e : Expr) (h : Writes o d w ps) :
    Writes o d (operandOf parent right e w) (Layout.operandOf parent right e ps) := by
  unfold Writing.operandOf Layout.operandOf
  split
  · exact h.parenthesized
  · exact h

/-- The depth is back when the text of the body is there. -/
lemma Writes.nested (h : Writes o (d + 1) w ps) :
    Writes o d (nested o w) (Layout.nestedAt d ps) := by
  intro r c
  have hopen : registered r [.opening d] = r := Layout.registered_of_silent rfl r
  rw [Layout.registered_congr (Layout.marks_nestedAt d ps),
    Layout.clash?_congr (Layout.marks_nestedAt d ps)]
  cases hp : o.pretty <;>
    simp [Writing.nested, h _ _, hp, hopen, Layout.nestedAt, Layout.texts_cons,
      Layout.texts_append, Layout.pieceText, String.join_cons, String.append_assoc, texts]

lemma writes_names (xs : List String) : Writes o d (names o xs) (Layout.names xs) := by
  refine writes_commaed ?_
  induction xs with
  | nil => exact .nil
  | cons x xs ih => exact .cons (writes_name x) ih

lemma writes_columnList (xs : List String) :
    Writes o d (columnList o xs) (Layout.columnList xs) := by
  unfold columnList Layout.columnList
  split
  · exact writes_empty
  · exact (writes_names xs).parenthesized

lemma writes_qualified (s : Option String) (n : String) :
    Writes o d (qualified o s n) (Layout.qualified s n) :=
  match s with
  | some s => ((writes_name s).append (writes_word ".")).append (writes_name n)
  | none => writes_name n

lemma writes_aliased (a : Option String) : Writes o d (aliased o a) (Layout.aliased a) :=
  match a with
  | some a => (writes_word " AS ").append (writes_name a)
  | none => writes_empty

lemma writes_headed (n : String) (columns : List String) :
    Writes o d (headed o n columns) (.name n :: Layout.columnList columns) :=
  (writes_name n).append (writes_columnList columns)

lemma writes_listed (keyword : String) (h : List.Forall₂ (Writes o d) ws pss) :
    List.Forall₂ (Writes o d) (listed keyword ws) (Layout.listed keyword pss) := by
  cases h with
  | nil => exact .nil
  | cons hw hws => exact .cons ((writes_word keyword).append (writes_commaed (.cons hw hws))) .nil

lemma writes_tableBreak :
    Writes o d (if o.pretty then word "," ++ separator o else word ", ") [.word ",", .gap d] := by
  split
  next => exact (writes_word ",").append writes_separator
  next h =>
    exact (writes_word ", ").of_text rfl fun r => by
      simp [h, texts, Layout.pieceText, String.join_cons]

lemma writes_starred (h : List.Forall₂ (Writes o d) ws pss) :
    Writes o d (if ws.isEmpty then word "*" else commaed ws)
      (if pss.isEmpty then [.word "*"] else Layout.commaed pss) := by
  cases h with
  | nil => exact writes_word "*"
  | cons hw hws => exact writes_commaed (.cons hw hws)

lemma writes_withTables (isRecursive : Bool) (h : List.Forall₂ (Writes o d) ws pss) :
    Writes o d (withTables o isRecursive ws) (Layout.withPieces d isRecursive pss) :=
  (writes_word _).append (writes_joined writes_tableBreak rfl h)

/-- A row stands one indentation further in than the clause. -/
lemma writes_rowBreak :
    Writes o d (if o.pretty then word "," ++ separator o ++ word (Layout.indent 1) else word ", ")
      [.word ",", .gap (d + 1)] := by
  split
  next h =>
    exact (((writes_word ",").append writes_separator).append (writes_word _)).of_text rfl
      fun r => by
        simp [h, texts, Layout.pieceText, String.join_cons, Layout.lineBreak, Layout.indent_succ d,
          String.append_assoc]
  next h =>
    exact (writes_word ", ").of_text rfl fun r => by
      simp [h, texts, Layout.pieceText, String.join_cons]

lemma writes_rowsText (h : List.Forall₂ (Writes o d) ws pss) :
    Writes o d (rowsText o ws) (Layout.valuesPieces d pss) :=
  (writes_word "VALUES ").append (writes_joined writes_rowBreak rfl h)

/-- The parts come back to the depth they start from, so that the break between them has that
depth. -/
lemma writes_parted (between : String → String) (ms : List Piece) (hms : marks ms = [])
    (htext : ∀ r, String.join (texts o r ms) =
      between (if o.pretty then Layout.lineBreak d else " "))
    (hv : Writes o d v ps) (hw : Writes o d w qs) :
    Writes o d (parted o between v w) (ps ++ (ms ++ qs)) := by
  intro r c
  simp [parted, separator, hv _ _, hw _ _, Layout.texts_append, htext, Layout.registered_append,
    Layout.registered_of_silent hms, Layout.clash?_append, Layout.clash?_of_silent hms,
    Option.or_assoc, String.append_assoc]

lemma writes_chained (op : SetOperator) (all : Bool) (hv : Writes o d v ps)
    (hw : Writes o d w qs) :
    Writes o d (chained o op all v w) (Layout.chained d ps op all qs) :=
  writes_parted (fun s => s ++ Layout.setOpText op all ++ s)
    [.gap d, .word (Layout.setOpText op all), .gap d] rfl (fun r => by
      simp [texts, Layout.pieceText, String.join_cons, String.append_assoc]) hv hw

/-- Of the clashes that are noted one after the other the first one stays. -/
lemma writes_clashing (tables : List String) (h : Writes o d w ps) :
    Writes o d (do
      tables.forM noteClash
      w) (tables.map .clash ++ ps) := by
  induction tables with
  | nil => simpa using h
  | cons t ts ih =>
    intro r c
    have hnoted := ih r (c.or (some t))
    have hreg : registered r (.clash t :: (ts.map .clash ++ ps)) =
        registered r (ts.map .clash ++ ps) := rfl
    have hclash : clash? (.clash t :: (ts.map .clash ++ ps)) = some t := rfl
    have htext : String.join (texts o r (.clash t :: (ts.map .clash ++ ps))) =
        String.join (texts o r (ts.map .clash ++ ps)) := by
      rw [Layout.texts_cons, String.join_cons]
      exact String.empty_append
    rw [List.map_cons, List.cons_append, hreg, hclash, htext]
    simpa [noteClash, Option.or_assoc] using hnoted

/-- A table is written as its pieces say. -/
def Carries (o : FormatOptions) (d : Nat) (t : CommonTable × Writing String)
    (t' : CommonTable × List Piece) : Prop := t.1 = t'.1 ∧ Writes o d t.2 t'.2

lemma Carries.texts {ts : List (CommonTable × Writing String)}
    {ts' : List (CommonTable × List Piece)} (h : List.Forall₂ (Carries o d) ts ts') :
    List.Forall₂ (Writes o d) (ts.map (·.2)) (ts'.map (·.2)) :=
  List.forall₂_map_left_iff.mpr (List.forall₂_map_right_iff.mpr (h.imp fun _ _ ht => ht.2))

def CarriesClause (o : FormatOptions) (d : Nat) (c : Bool × List (CommonTable × Writing String))
    (c' : Bool × List (CommonTable × List Piece)) : Prop :=
  c.1 = c'.1 ∧ List.Forall₂ (Carries o d) c.2 c'.2

/-- Merging looks at tables only, so that the same ones are kept with how they are written and with
their pieces. -/
lemma writes_hoisted {cs : List (Bool × List (CommonTable × Writing String))}
    {cs' : List (Bool × List (CommonTable × List Piece))}
    (h : List.Forall₂ (CarriesClause o d) cs cs') (hv : Writes o d v ps)
    (hws : List.Forall₂ (Writes o d) ws pss) :
    Writes o d (stacked o (hoisted o cs ++ v :: ws))
      ((Layout.hoistedWith d cs').1 ++
        Layout.stacked d ((Layout.hoistedWith d cs').2 ++ ps :: pss)) := by
  have hany : cs.any (·.1) = cs'.any (·.1) := by
    induction h with
    | nil => rfl
    | cons hc _ ih => rw [List.any_cons, List.any_cons, hc.1, ih]
  have htables : List.Forall₂ (Carries o d) (cs.flatMap (·.2)) (cs'.flatMap (·.2)) :=
    List.rel_flatMap h fun _ _ hc => hc.2
  obtain ⟨hkept, hclashes⟩ :=
    Hoisted.rel_ofTables Prod.fst Prod.fst (fun _ _ ht => ht.1) htables
  have hfront : Writes o d
      (do
        (Hoisted.ofTables Prod.fst (cs.flatMap (·.2))).clashes.forM noteClash
        withTables o (cs.any (·.1)) ((Hoisted.ofTables Prod.fst (cs.flatMap (·.2))).kept.map (·.2)))
      ((Layout.hoistedWith d cs').1 ++ Layout.withPieces d (cs'.any (·.1))
        ((Hoisted.ofTables Prod.fst (cs'.flatMap (·.2))).kept.map (·.2))) := by
    rw [hclashes, hany]
    exact writes_clashing _ (writes_withTables _ (Carries.texts hkept))
  cases h with
  | nil => exact writes_stacked (.cons hv hws)
  | cons _ _ =>
    have hall := writes_stacked (.cons hfront (.cons hv hws))
    rwa [Layout.stacked_cons, List.append_assoc, ← Layout.stacked_cons] at hall

lemma writes_insertHead (t : QualifiedName) (columns : List String) :
    Writes o d (insertHead o t columns)
      (.word "INSERT INTO " :: Layout.qualified t.schema t.name ++
        Layout.insertColumns columns) := by
  refine ((writes_word _).append (writes_qualified _ _)).append ?_
  unfold Layout.insertColumns
  split
  · exact writes_empty
  · exact (writes_word " ").append (writes_names columns).parenthesized

lemma writes_createHead (n : QualifiedName) (temporary ifNotExists : Bool)
    (columns : List ColumnDefinition) :
    Writes o d (createHead o n temporary ifNotExists columns)
      (Layout.createHead n temporary ifNotExists columns) := by
  refine ((writes_word _).append (writes_qualified _ _)).append ?_
  split
  · exact writes_empty
  · refine (writes_word " ").append (writes_commaed ?_).parenthesized
    exact List.forall₂_map_left_iff.mpr (List.forall₂_map_right_iff.mpr
      (List.forall₂_same.mpr fun c _ => (writes_name c.name).append (writes_word _)))

end

variable (o : FormatOptions)

/-! The induction follows the tree. The depth is free in it, as the body of a nested statement is
written one level further in. -/
mutual
lemma writes_expr (d : Nat) : (e : Expr) → Writes o d (expr o e) (Layout.expr d e)
  | .column (some q) n => writes_qualified (some q) n
  | .column none n => writes_qualified none n
  | .literal v => writes_word (Layout.literalText v)
  | .parameter n v => writes_placeholder ⟨n, v⟩
  | .call n args isDistinct f w =>
    ((((((writes_word n).append (writes_word "(")).append
      (writes_word (if isDistinct then "DISTINCT " else ""))).append
      (writes_commaed (writes_exprs d args))).append_word ")" (writes_filterText d f)).append
      (writes_window d w))
  | .binary l op r =>
    ((writes_expr d l).operandOf op false l).append_word _ ((writes_expr d r).operandOf op true r)
  | .unary .not e => (writes_word "NOT ").append (writes_expr d e)
  | .unary .minus e => (writes_word "-").append (writes_expr d e)
  | .unary .plus e => (writes_word "+").append (writes_expr d e)
  | .tuple es => (writes_commaed (writes_exprs d es)).parenthesized
  | .array es =>
    ((writes_word "ARRAY[").append (writes_commaed (writes_exprs d es))).append (writes_word "]")
  | .inList e es _ =>
    ((writes_expr d e).append_word _ (writes_commaed (writes_exprs d es))).append (writes_word ")")
  | .wildcard (some q) => (writes_name q).append (writes_word ".*")
  | .wildcard none => writes_word "*"
  | .case e bs x =>
    ((((writes_word "CASE").append (writes_after d " " e)).append (writes_branches d bs)).append
      (writes_after d " ELSE " x)).append (writes_word " END")
  | .subquery q => (writes_statement (d + 1) q).nested
  | .exists q => (writes_word "EXISTS ").append (writes_statement (d + 1) q).nested
  | .inSubquery e q _ => (writes_expr d e).append_word _ (writes_statement (d + 1) q).nested
  | .between e l h _ =>
    ((writes_expr d e).append_word _ (writes_expr d l)).append_word " AND " (writes_expr d h)
  | .isNull e _ => (writes_expr d e).append (writes_word _)
  | .cast e t true => (writes_expr d e).append (writes_word ("::" ++ t))
  | .cast e _ false => ((writes_word "CAST(").append (writes_expr d e)).append (writes_word _)
  | .nested e => (writes_expr d e).parenthesized
  | .raw s => writes_word s
termination_by structural e => e
lemma writes_exprs (d : Nat) : (es : List Expr) →
    List.Forall₂ (Writes o d) (exprs o es) (Layout.exprs d es)
  | [] => .nil
  | e :: es => .cons (writes_expr d e) (writes_exprs d es)
termination_by structural es => es
lemma writes_after (d : Nat) (keyword : String) : (e : Option Expr) →
    Writes o d (after o keyword e) (Layout.after d keyword e)
  | none => writes_empty
  | some e => (writes_word keyword).append (writes_expr d e)
termination_by structural e => e
lemma writes_clause (d : Nat) (keyword : String) : (e : Option Expr) →
    List.Forall₂ (Writes o d) (clause o keyword e) (Layout.clause d keyword e)
  | none => .nil
  | some e => .cons ((writes_word keyword).append (writes_expr d e)) .nil
termination_by structural e => e
lemma writes_filterText (d : Nat) : (e : Option Expr) →
    Writes o d (filterText o e) (Layout.filterPieces d e)
  | none => writes_empty
  | some e =>
    ((writes_word " FILTER (WHERE ").append (writes_expr d e)).append (writes_word ")")
termination_by structural e => e
lemma writes_branches (d : Nat) : (bs : List (Expr × Expr)) →
    Writes o d (branches o bs) (Layout.branches d bs)
  | [] => writes_empty
  | (c, r) :: bs =>
    (((writes_word " WHEN ").append (writes_expr d c)).append_word " THEN "
      (writes_expr d r)).append (writes_branches d bs)
termination_by structural bs => bs
lemma writes_window (d : Nat) : (w : Option Window) →
    Writes o d (window o w) (Layout.window d w)
  | none => writes_empty
  | some ⟨some n, _, _, _⟩ => (writes_word " OVER ").append (writes_name n)
  | some ⟨none, p, os, f⟩ => by
    have hframe : List.Forall₂ (Writes o d) (f.toList.map fun f => word (Layout.frameText f))
        (f.toList.map fun f => [.word (Layout.frameText f)]) := by
      cases f with
      | none => exact .nil
      | some f => exact .cons (writes_word _) .nil
    exact ((writes_word " OVER (").append (writes_joined (writes_word " ") rfl
      (List.rel_append (List.rel_append (writes_listed _ (writes_exprs d p))
        (writes_listed _ (writes_order d os))) hframe))).append (writes_word ")")
termination_by structural w => w
lemma writes_order (d : Nat) : (os : List OrderItem) →
    List.Forall₂ (Writes o d) (order o os) (Layout.order d os)
  | [] => .nil
  | ⟨v, _, _⟩ :: os => .cons ((writes_expr d v).append (writes_word _)) (writes_order d os)
termination_by structural os => os
lemma writes_items (d : Nat) : (is : List SelectItem) →
    List.Forall₂ (Writes o d) (items o is) (Layout.items d is)
  | [] => .nil
  | ⟨v, a⟩ :: is => .cons ((writes_expr d v).append (writes_aliased a)) (writes_items d is)
termination_by structural is => is
lemma writes_source (d : Nat) : (x : Source) → Writes o d (source o x) (Layout.source d x)
  | .table s n a => (writes_qualified s n).append (writes_aliased a)
  | .subquery q a cs _ =>
    ((writes_word _).append (writes_statement (d + 1) q).nested).append_word " AS "
      (writes_headed a cs)
  | .function n args a =>
    ((writes_word n).append (writes_commaed (writes_exprs d args)).parenthesized).append
      (writes_aliased a)
termination_by structural x => x
lemma writes_sources (d : Nat) : (xs : List Source) →
    List.Forall₂ (Writes o d) (sources o xs) (Layout.sources d xs)
  | [] => .nil
  | x :: xs => .cons (writes_source d x) (writes_sources d xs)
termination_by structural xs => xs
lemma writes_condition (d : Nat) : (c : Option JoinCondition) →
    Writes o d (condition o c) (Layout.condition d c)
  | some (.predicate e) => (writes_word " ON ").append (writes_expr d e)
  | some (.shared cs) => (writes_word " USING ").append (writes_names cs).parenthesized
  | some .natural => writes_empty
  | none => writes_empty
termination_by structural c => c
lemma writes_joins (d : Nat) : (js : List Join) →
    List.Forall₂ (Writes o d) (joins o js) (Layout.joins d js)
  | [] => .nil
  | ⟨_, s, c⟩ :: js =>
    .cons (((writes_word _).append (writes_source d s)).append (writes_condition d c))
      (writes_joins d js)
termination_by structural js => js
lemma writes_rows (d : Nat) : (rs : List (List Expr)) →
    List.Forall₂ (Writes o d) (rows o rs) (Layout.rows d rs)
  | [] => .nil
  | r :: rs => .cons (writes_commaed (writes_exprs d r)).parenthesized (writes_rows d rs)
termination_by structural rs => rs
lemma writes_assignments (d : Nat) : (as : List Assignment) →
    List.Forall₂ (Writes o d) (assignments o as) (Layout.assignments d as)
  | [] => .nil
  | ⟨c, v⟩ :: as =>
    .cons (((writes_name c).append (writes_word " = ")).append (writes_expr d v))
      (writes_assignments d as)
termination_by structural as => as
lemma carries_tables (d : Nat) : (ts : List CommonTable) →
    List.Forall₂ (Carries o d) (tables o ts) (Layout.tables d ts)
  | [] => .nil
  | ⟨n, cs, b⟩ :: ts =>
    .cons ⟨rfl, (writes_headed n cs).append_word " AS " (writes_statement (d + 1) b).nested⟩
      (carries_tables d ts)
termination_by structural ts => ts
lemma writes_withClause (d : Nat) : (w : Option WithClause) →
    List.Forall₂ (Writes o d) (withClause o w) (Layout.withClause d w)
  | none => .nil
  | some ⟨r, ts⟩ => .cons (writes_withTables r (Carries.texts (carries_tables d ts))) .nil
termination_by structural w => w
lemma carries_operandWiths (d : Nat) : (s : Statement) →
    List.Forall₂ (CarriesClause o d) (operandWiths o s) (Layout.operandWiths d s)
  | .select ⟨some ⟨_, ts⟩, _, _, _, _, _, _, _, _, _, _⟩ =>
    .cons ⟨rfl, carries_tables d ts⟩ .nil
  | .select ⟨none, _, _, _, _, _, _, _, _, _, _⟩ => .nil
  | .setOp ⟨l, _, _, r, _, _, _⟩ =>
    List.rel_append (carries_operandWiths d l) (carries_operandWiths d r)
  | .values _ | .insert _ | .createTable _ | .update _ | .delete _ => .nil
termination_by structural s => s
lemma writes_select (d : Nat) (ownWith : Bool) : (s : Select) →
    Writes o d (select o ownWith s) (Layout.statement d .whole
      (.select { s with withClause := if ownWith then s.withClause else none }))
  | ⟨w, isDistinct, is, fs, js, f, g, h, os, l, k⟩ => by
    have hclauses := List.rel_append (List.rel_append (List.rel_append (List.rel_append
      (List.rel_append (List.Forall₂.cons
          ((writes_word (if isDistinct then "SELECT DISTINCT " else "SELECT ")).append
            (writes_starred (writes_items d is)))
          (writes_listed "FROM " (writes_sources d fs)))
        (writes_joins d js)) (writes_clause d "WHERE " f))
        (writes_listed "GROUP BY " (writes_exprs d g))) (writes_clause d "HAVING " h))
      (List.rel_append (List.rel_append (writes_listed "ORDER BY " (writes_order d os))
        (writes_clause d "LIMIT " l)) (writes_clause d "OFFSET " k))
    cases ownWith with
    | true => exact writes_stacked (List.rel_append (writes_withClause d w) hclauses)
    | false => exact writes_stacked hclauses
termination_by structural s => s
lemma writes_setOperation (d : Nat) : (b : SetOperation) →
    Writes o d (setOperation o b)
      (Layout.chained d (Layout.statement d (.operand b.op false) b.left) b.op b.all
        (Layout.statement d (.operand b.op true) b.right))
  | ⟨l, op, a, r, _, _, _⟩ => writes_chained op a (writes_operand d op false l)
    (writes_operand d op true r)
termination_by structural b => b
lemma writes_modifiers (d : Nat) : (b : SetOperation) →
    List.Forall₂ (Writes o d) (modifiers o b)
      (Layout.listed "ORDER BY " (Layout.order d b.orderBy) ++ Layout.clause d "LIMIT " b.limit ++
        Layout.clause d "OFFSET " b.offset)
  | ⟨_, _, _, _, os, l, k⟩ =>
    List.rel_append (List.rel_append (writes_listed "ORDER BY " (writes_order d os))
      (writes_clause d "LIMIT " l)) (writes_clause d "OFFSET " k)
termination_by structural b => b
lemma writes_valuesList (d : Nat) : (v : ValuesList) →
    Writes o d (valuesList o v) (Layout.statement d .whole (.values v))
  | ⟨rs, _⟩ => writes_rowsText (writes_rows d rs)
termination_by structural v => v
lemma writes_insert (d : Nat) : (i : Insert) →
    Writes o d (insert o i) (Layout.statement d .whole (.insert i))
  | ⟨t, cs, .rows rs, is⟩ => writes_stacked (.cons (writes_insertHead t cs)
      (.cons (writes_rowsText (writes_rows d rs)) (writes_listed _ (writes_items d is))))
  | ⟨t, cs, .query q, is⟩ => writes_stacked (.cons (writes_insertHead t cs)
      (.cons (writes_statement d q) (writes_listed _ (writes_items d is))))
termination_by structural i => i
lemma writes_createTable (d : Nat) : (c : CreateTable) →
    Writes o d (createTable o c) (Layout.statement d .whole (.createTable c))
  | ⟨n, tm, e, cs, none⟩ => by
    have h : Writes o d (createHead o n tm e cs) (Layout.createHead n tm e cs ++ []) :=
      (List.append_nil _).symm ▸ writes_createHead n tm e cs
    exact h
  | ⟨n, tm, e, cs, some q⟩ =>
    writes_parted (fun s => " AS" ++ s) [.word " AS", .gap d] rfl
      (fun r => by simp [texts, Layout.pieceText, String.join_cons])
      (writes_createHead n tm e cs) (writes_statement d q)
termination_by structural c => c
lemma writes_update (d : Nat) : (u : Update) →
    Writes o d (update o u) (Layout.statement d .whole (.update u))
  | ⟨w, t, as, fs, f, is⟩ =>
    writes_stacked (List.rel_append (List.rel_append (List.rel_append (writes_withClause d w)
      (.cons ((writes_word _).append (writes_source d t))
        (.cons ((writes_word _).append (writes_commaed (writes_assignments d as)))
          (writes_listed _ (writes_sources d fs))))) (writes_clause d _ f))
      (writes_listed _ (writes_items d is)))
termination_by structural u => u
lemma writes_delete (d : Nat) : (x : Delete) →
    Writes o d (delete o x) (Layout.statement d .whole (.delete x))
  | ⟨w, t, us, f, is⟩ =>
    writes_stacked (List.rel_append (List.rel_append (List.rel_append (writes_withClause d w)
      (.cons ((writes_word _).append (writes_source d t))
        (writes_listed _ (writes_sources d us)))) (writes_clause d _ f))
      (writes_listed _ (writes_items d is)))
termination_by structural x => x
lemma writes_operand (d : Nat) (parent : SetOperator) (right : Bool) : (s : Statement) →
    Writes o d (operand o parent right s) (Layout.statement d (.operand parent right) s)
  | .select s => by
    have hbody := writes_select d false s
    obtain ⟨w, isDistinct, is, fs, js, f, g, h, os, l, k⟩ := s
    -- One asks for modifiers in the tree, the other in the list of clauses.
    change Writes o d (if os.isEmpty && l.isNone && k.isNone then _ else _)
      (if List.isEmpty (_ ++ _ ++ _) then _ else _)
    rw [Layout.isEmpty_modifiers d os l k]
    split
    · exact hbody
    · exact hbody.parenthesized
  | .setOp b => by
    have hchain := writes_setOperation d b
    have hwhole := (writes_stacked (.cons hchain (writes_modifiers d b))).parenthesized
    obtain ⟨l, op, a, r, os, m, k⟩ := b
    have hmodified : (!os.isEmpty || m.isSome || k.isSome) =
        !(Layout.listed "ORDER BY " (Layout.order d os) ++ Layout.clause d "LIMIT " m ++
          Layout.clause d "OFFSET " k).isEmpty := by
      rw [Layout.isEmpty_modifiers, Bool.not_and, Bool.not_and, Option.not_isNone,
        Option.not_isNone]
    change Writes o d
      (if Layout.operandNests parent op right (!os.isEmpty || m.isSome || k.isSome) then _ else _)
      (if Layout.operandNests parent op right (!List.isEmpty _) then _ else _)
    rw [hmodified]
    split
    · exact hwhole
    · exact hchain
  | .values v => by
    have h := writes_valuesList d v
    cases v
    exact h
  | .insert i => by
    have h := (writes_insert (d + 1) i).nested
    obtain ⟨_, _, _ | _, _⟩ := i <;> exact h
  | .createTable c => by
    have h := (writes_createTable (d + 1) c).nested
    cases c
    exact h
  | .update u => by
    have h := (writes_update (d + 1) u).nested
    cases u
    exact h
  | .delete x => by
    have h := (writes_delete (d + 1) x).nested
    cases x
    exact h
termination_by structural s => s
/-- At any depth a statement is written as its pieces say. -/
lemma writes_statement (d : Nat) : (s : Statement) →
    Writes o d (statement o s) (Layout.statement d .whole s)
  | .select s => by
    have h := writes_select d true s
    cases s
    exact h
  | .setOp b => by
    have hchain := writes_setOperation d b
    have hmodifiers := writes_modifiers d b
    obtain ⟨l, op, a, r, os, m, k⟩ := b
    exact writes_hoisted (List.rel_append (carries_operandWiths d l) (carries_operandWiths d r))
      hchain hmodifiers
  | .values v => writes_valuesList d v
  | .insert i => writes_insert d i
  | .createTable c => writes_createTable d c
  | .update u => writes_update d u
  | .delete x => writes_delete d x
termination_by structural s => s
end

end Writing

/-- Written in one go or by way of its pieces, a statement comes out the same. -/
theorem Statement.written_eq_format (o : FormatOptions) (s : Statement) :
    s.written o = s.format o := by
  have h : (Writing.statement o s).run {} = pure (Layout.text o (Layout.statement 0 .whole s),
      ⟨Registry.ofOccurrences (Layout.occurrences (Layout.statement 0 .whole s)), 0,
        Layout.clash? (Layout.statement 0 .whole s)⟩) := Writing.writes_statement o 0 s {} none
  rw [written, h]
  rfl

/-- So does an expression. -/
theorem Expr.written_eq_format (o : FormatOptions) (e : Expr) : e.written o = e.format o :=
  congrArg Prod.fst (Writing.writes_expr o 0 e {} none)

theorem WithClause.written_eq_format (o : FormatOptions) (w : WithClause) :
    w.written o = w.format o := by
  have hpieces : List.flatten (Layout.withClause 0 (some w)) =
      Layout.withPieces 0 w.recursive ((Layout.tables 0 w.tables).map (·.2)) := by
    cases w
    exact List.append_nil _
  rw [format, hpieces]
  exact congrArg Prod.fst (Writing.writes_withTables w.recursive
    (Writing.Carries.texts (Writing.carries_tables o 0 w.tables)) {} none)

end SqlLoom
