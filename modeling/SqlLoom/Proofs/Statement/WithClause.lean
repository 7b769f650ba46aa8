import SqlLoom.Proofs.Text
import SqlLoom.Statement.Edit

/-! Tables added to WITH clauses. A clause takes up tables one by one and stops at the first whose
name is taken, so a clause whose names differ keeps that through all additions, failed ones among
them. An addition that fails changes nothing, with one exception: a select without a clause gets
an empty one before it is asked to put tables in front. -/
namespace SqlLoom

namespace CommonTable

variable {ts us : List CommonTable} {t : CommonTable}

/-- No two tables have one name, whatever the case of its letters. -/
def NamesDiffer (ts : List CommonTable) : Prop :=
  ts.Pairwise fun t u => Text.sameName t.name u.name = false

/-- `t` is the first of the tables to have the name of a table before it. -/
def FirstRepeated (ts : List CommonTable) (t : CommonTable) : Prop :=
  ∃ before after, ts = before ++ t :: after ∧ NamesDiffer before ∧
    ∃ u ∈ before, Text.sameName u.name t.name = true

lemma namesDiffer_append : NamesDiffer (us ++ ts) ↔
    NamesDiffer us ∧ NamesDiffer ts ∧ ∀ u ∈ us, ∀ t ∈ ts, Text.sameName u.name t.name = false :=
  List.pairwise_append

lemma namesDiffer_snoc : NamesDiffer (us ++ [t]) ↔
    NamesDiffer us ∧ ∀ u ∈ us, Text.sameName u.name t.name = false := by
  simp [NamesDiffer, List.pairwise_append]

lemma FirstRepeated.append (h : FirstRepeated ts t) (us : List CommonTable) :
    FirstRepeated (ts ++ us) t := by
  obtain ⟨before, after, rfl, h⟩ := h
  exact ⟨before, after ++ us, by simp, h⟩

lemma FirstRepeated.not_namesDiffer (h : FirstRepeated ts t) : ¬ NamesDiffer ts := by
  obtain ⟨before, after, rfl, -, u, hu, hut⟩ := h
  intro hd
  have := (namesDiffer_append.mp hd).2.2 u hu t (by simp)
  simp [hut] at this

end CommonTable

open CommonTable

namespace WithClause

variable {w w' : WithClause} {ts : List CommonTable}

/-- A clause takes up a table whose name is new. -/
lemma push_cases (hw : NamesDiffer w.tables) (t : CommonTable) :
    (NamesDiffer (w.tables ++ [t]) ∧ push t w = .ok () { w with tables := w.tables ++ [t] }) ∨
    FirstRepeated (w.tables ++ [t]) t ∧ push t w = .error (.duplicateTable t.name) w := by
  cases hget : w.get? t.name with
  | none =>
    have hnew : ∀ u ∈ w.tables, Text.sameName u.name t.name = false := by
      simpa [get?] using hget
    exact .inl ⟨namesDiffer_snoc.mpr ⟨hw, hnew⟩, by simp [push, hget]⟩
  | some u =>
    have hu : u ∈ w.tables := List.mem_of_find?_eq_some hget
    have hut := List.find?_some hget
    exact .inr ⟨⟨w.tables, [], rfl, hw, u, hu, hut⟩, by simp [push, hget]⟩

/-- Tables are taken up until one has a name that is there. -/
lemma pushAll_cases (hw : NamesDiffer w.tables) (ts : List CommonTable) :
    (NamesDiffer (w.tables ++ ts) ∧ pushAll ts w = .ok () { w with tables := w.tables ++ ts }) ∨
    ∃ t w', FirstRepeated (w.tables ++ ts) t ∧
      pushAll ts w = .error (.duplicateTable t.name) w' := by
  induction ts generalizing w with
  | nil =>
    rw [List.append_nil]
    exact .inl ⟨hw, by cases w; rfl⟩
  | cons t ts ih =>
    obtain ⟨hadded, hok⟩ | ⟨ht, herr⟩ := push_cases hw t
    · have hrest := ih (w := { w with tables := w.tables ++ [t] }) hadded
      simpa [pushAll, bind, EStateM.bind, hok] using hrest
    · exact .inr ⟨t, w, by simpa using ht.append ts, by simp [pushAll, bind, EStateM.bind, herr]⟩

/-- All tables are put in front or none is, whatever the clause holds. -/
lemma prepend_cases (w : WithClause) (ts : List CommonTable) :
    (NamesDiffer (ts ++ w.tables) ∧ prepend ts w = .ok () { w with tables := ts ++ w.tables }) ∨
    ∃ t, FirstRepeated (ts ++ w.tables) t ∧ prepend ts w = .error (.duplicateTable t.name) w := by
  obtain ⟨hd, hok⟩ | ⟨t, w', ht, herr⟩ :=
    pushAll_cases (w := { recursive := w.recursive }) .nil (ts ++ w.tables)
  · exact .inl ⟨by simpa using hd, by simp [prepend, hok]⟩
  · exact .inr ⟨t, by simpa using ht, by simp [prepend, herr]⟩

lemma prepend_ok (h : prepend ts w = .ok () w') :
    w' = { w with tables := ts ++ w.tables } ∧ NamesDiffer (ts ++ w.tables) := by
  obtain ⟨hd, hok⟩ | ⟨t, -, herr⟩ := prepend_cases w ts
  · cases hok.symm.trans h
    exact ⟨rfl, hd⟩
  · cases herr.symm.trans h

end WithClause

/-- The tables of the select's own clause, if it has one. -/
def Select.ownTables (s : Select) : List CommonTable := (s.withClause.getD {}).tables

/-- A way to add tables to a select: it takes them up itself, and makes a clause if it has none,
or the clause that it has does. -/
inductive TableCall where
  | append (t : CommonTable)
  | prependAll (ts : List CommonTable)
  | push (t : CommonTable)
  | prepend (ts : List CommonTable)

namespace TableCall

/-- A change to the clause of a select, if it has one. -/
def onClause (edit : EStateM Error WithClause Unit) : EStateM Error Select Unit := fun s =>
  match s.withClause with
  | none => .ok () s
  | some w =>
    match edit w with
    | .ok _ w' => .ok () { s with withClause := some w' }
    | .error e w' => .error e { s with withClause := some w' }

def run : TableCall → EStateM Error Select Unit
  | .append t => Select.appendTable t
  | .prependAll ts => Select.prependTables ts
  | .push t => onClause (WithClause.push t)
  | .prepend ts => onClause (WithClause.prepend ts)

/-- What is left of a select after calls, whether they fail or not. -/
def after (cs : List TableCall) (s : Select) : Select :=
  cs.foldl (fun s c => match c.run s with | .ok _ s' => s' | .error _ s' => s') s

/-- There is someone to call: the clause can be asked only if it is there. -/
def Applies (s : Select) : TableCall → Prop
  | .append _ | .prependAll _ => True
  | .push _ | .prepend _ => s.withClause.isSome

def added : TableCall → List CommonTable
  | .append t | .push t => [t]
  | .prependAll ts | .prepend ts => ts

/-- The tables of a clause together with the new ones. -/
def combined (us : List CommonTable) : TableCall → List CommonTable
  | .append t | .push t => us ++ [t]
  | .prependAll ts | .prepend ts => ts ++ us

/-- A new table has the name of a present or of another new one. -/
def Clashes (us : List CommonTable) (c : TableCall) : Prop :=
  (∃ t ∈ c.added, ∃ u ∈ us, Text.sameName t.name u.name = true) ∨ ¬ NamesDiffer c.added

variable {s : Select} {us : List CommonTable}

lemma namesDiffer_combined (hus : NamesDiffer us) (c : TableCall) :
    NamesDiffer (c.combined us) ↔ ¬ c.Clashes us := by
  have hsymm (t u : CommonTable) : Text.sameName t.name u.name = Text.sameName u.name t.name := by
    rw [Bool.eq_iff_iff, Text.sameName_iff, Text.sameName_iff, eq_comm]
  have hsnoc (t : CommonTable) : NamesDiffer [t] := List.pairwise_singleton _ _
  cases c <;>
    simp +contextual [combined, Clashes, added, namesDiffer_append, hus, hsnoc, hsymm, and_comm]

/-- The change that a call makes to the clause. -/
def edit : TableCall → EStateM Error WithClause Unit
  | .append t | .push t => WithClause.push t
  | .prependAll ts | .prepend ts => WithClause.prepend ts

lemma onClause_eq_editWith (h : s.withClause.isSome) (edit : EStateM Error WithClause Unit) :
    onClause edit s = s.editWith edit := by
  obtain ⟨w, hw⟩ := Option.isSome_iff_exists.mp h
  cases hedit : edit w <;> simp [onClause, Select.editWith, hw, hedit]

lemma run_eq_editWith {c : TableCall} (h : c.Applies s) : c.run s = s.editWith c.edit := by
  cases c with
  | append t => rfl
  | prependAll ts => rfl
  | push t => exact onClause_eq_editWith h (WithClause.push t)
  | prepend ts => exact onClause_eq_editWith h (WithClause.prepend ts)

lemma edit_cases {w : WithClause} (hw : NamesDiffer w.tables) (c : TableCall) :
    (NamesDiffer (c.combined w.tables) ∧
      c.edit w = .ok () { w with tables := c.combined w.tables }) ∨
    ∃ t, FirstRepeated (c.combined w.tables) t ∧ c.edit w = .error (.duplicateTable t.name) w := by
  cases c with
  | append t | push t => exact (WithClause.push_cases hw t).imp_right fun h => ⟨t, h⟩
  | prependAll ts | prepend ts => exact WithClause.prepend_cases w ts

/-- One call: the clause takes up all the tables, or there is a clash and the clause, if need be
an empty one, is what it was. -/
lemma run_cases {c : TableCall} (ha : c.Applies s) (hs : NamesDiffer s.ownTables) :
    (¬ c.Clashes s.ownTables ∧ NamesDiffer (c.combined s.ownTables) ∧
      c.run s = .ok () { s with withClause := some { s.withClause.getD {} with
        tables := c.combined s.ownTables } }) ∨
    c.Clashes s.ownTables ∧ ∃ t, FirstRepeated (c.combined s.ownTables) t ∧
      c.run s = .error (.duplicateTable t.name)
        { s with withClause := some (s.withClause.getD {}) } := by
  rw [run_eq_editWith ha]
  obtain ⟨hd, hok⟩ | ⟨t, ht, herr⟩ := edit_cases hs c
  · exact .inl ⟨(namesDiffer_combined hs c).mp hd, hd, by
      simp [Select.editWith, hok, Select.ownTables]⟩
  · have hclash := mt (namesDiffer_combined hs c).mpr ht.not_namesDiffer
    exact .inr ⟨not_not.mp hclash, t, ht, by simp [Select.editWith, herr]⟩

lemma after_concat (cs : List TableCall) (c : TableCall) :
    after (cs ++ [c]) s = match c.run (after cs s) with | .ok _ s' => s' | .error _ s' => s' := by
  simp [after]

/-- Names that differ do so after any calls. -/
lemma namesDiffer_after (hs : NamesDiffer s.ownTables) (cs : List TableCall) :
    NamesDiffer (after cs s).ownTables := by
  induction cs using List.reverseRecOn with
  | nil => exact hs
  | append_singleton cs c ih =>
    rw [after_concat]
    by_cases ha : c.Applies (after cs s)
    · obtain ⟨-, hd, hok⟩ | ⟨-, t, -, herr⟩ := run_cases ha ih
      · simpa [hok, Select.ownTables] using hd
      · simpa [herr, Select.ownTables] using ih
    · have hidle : c.run (after cs s) = .ok () (after cs s) := by
        cases c <;> simp_all [Applies, run, onClause]
      simpa [hidle] using ih

/-- Without a clause there are no names to clash with, only several new ones can. -/
lemma Clashes.prependAll_of_none {c : TableCall} (h : c.Clashes s.ownTables) (ha : c.Applies s)
    (hnone : s.withClause = none) : ∃ ts, c = .prependAll ts ∧ ¬ NamesDiffer ts := by
  cases c with
  | append t => simp [Clashes, added, NamesDiffer, Select.ownTables, hnone] at h
  | prependAll ts => exact ⟨ts, rfl, by simpa [Clashes, added, Select.ownTables, hnone] using h⟩
  | push t | prepend ts => simp [Applies, hnone] at ha

/-- **Tables added to a select.** If the names in its clause differ at first, they do after any
calls, and the next call fails exactly if a new table has the name of a present or of another new
one. One that succeeds adds its tables and nothing else. One that fails names the first table
that repeats a name and leaves the select as it was, except that a select without a clause, asked
to put tables in front that clash among themselves, is left with an empty one. -/
theorem calls_keep_names_apart (s : Select) (hs : NamesDiffer s.ownTables) (cs : List TableCall) :
    NamesDiffer (after cs s).ownTables ∧
    ∀ s', s' = after cs s → ∀ c : TableCall, c.Applies s' →
      ((∃ e r, c.run s' = .error e r) ↔ c.Clashes s'.ownTables) ∧
      (∀ r, c.run s' = .ok () r → r = { s' with withClause := some { s'.withClause.getD {} with
        tables := c.combined s'.ownTables } }) ∧
      ∀ e r, c.run s' = .error e r →
        (∃ t, FirstRepeated (c.combined s'.ownTables) t ∧ e = .duplicateTable t.name) ∧
        (s'.withClause.isSome → r = s') ∧
        (s'.withClause = none → (∃ ts, c = .prependAll ts ∧ ¬ NamesDiffer ts) ∧
          r = { s' with withClause := some {} }) := by
  refine ⟨namesDiffer_after hs cs, ?_⟩
  rintro s' rfl c ha
  obtain ⟨hfree, -, hok⟩ | ⟨hclash, t, ht, herr⟩ := run_cases ha (namesDiffer_after hs cs)
  · simp [hok, hfree]
  · refine ⟨by simp [herr, hclash], by simp [herr], ?_⟩
    intro e r hr
    cases herr.symm.trans hr
    refine ⟨⟨t, ht, rfl⟩, fun hsome => ?_, fun hnone => ⟨hclash.prependAll_of_none ha hnone, ?_⟩⟩
    · obtain ⟨w, hw⟩ := Option.isSome_iff_exists.mp hsome
      rw [hw, Option.getD_some]
      generalize after cs s = s' at hw
      cases s'
      simp_all
    · rw [hnone, Option.getD_none]

/-- Two tables of one name are put in front of a select without a clause: it gets an empty one,
and takes up the first of the two later. -/
theorem calls_keep_names_apart_empty_clause :
    let a : CommonTable := ⟨"a", [], .values { rows := [] }⟩
    let b : CommonTable := ⟨"A", [], .values { rows := [] }⟩
    let calls : List TableCall := [.prependAll [a, b], .push a, .append b]
    NamesDiffer ({} : Select).ownTables ∧
    (TableCall.prependAll [a, b]).run {} = .error (.duplicateTable "A") { withClause := some {} } ∧
    NamesDiffer (after calls {}).ownTables ∧ (after calls {}).ownTables = [a] := by
  intro a b calls
  have hnone : NamesDiffer ({} : Select).ownTables := .nil
  have hname : Text.sameName "a" "A" = true := by decide
  refine ⟨hnone, ?_, (calls_keep_names_apart {} hnone calls).1, ?_⟩
  · simp [a, b, run, Select.prependTables, Select.editWith, WithClause.prepend, WithClause.pushAll,
      WithClause.push, WithClause.get?, bind, EStateM.bind, hname]
  · simp [a, b, calls, after, run, onClause, Select.prependTables, Select.appendTable,
      Select.editWith, Select.ownTables, WithClause.prepend, WithClause.pushAll, WithClause.push,
      WithClause.get?, bind, EStateM.bind, hname]

end TableCall

end SqlLoom
