import SqlLoom.Proofs.Scope
import SqlLoom.Report.Outputs
import SqlLoom.Walk

/-! The search for output columns together with the names it looks up. Beside what it knows by a
name it keeps the place where it is: the scopes in which the walk comes by. The results are those
of `Outlook`, which knows nothing of places. -/
namespace SqlLoom

/-- A table name without a schema that is met behind a wildcard. -/
structure Lookup where
  name : String
  /-- The tables among which the search looks, the first of the name being taken. -/
  known : List Declared
  /-- The scopes in which the walk reports the name. -/
  scopes : Scopes

namespace Lookup

/-- What the search takes the name for; `none` is the physical table. -/
def taken (m : Lookup) : Option Declared := m.known.find? (·.named m.name)

/-- What the walk takes the name for. -/
def shown (m : Lookup) : Option Declared := m.scopes.declared.find? (·.named m.name)

/-- The name stands in the body of a common table. -/
def InBody (m : Lookup) : Prop := 0 < m.scopes.tableNesting

lemma shown_map_table (m : Lookup) : m.shown.map (·.table) = m.scopes.resolveTable m.name :=
  (Scopes.resolveTable_eq m.name m.scopes).symm

end Lookup

/-- Columns, with the names looked up to find them. -/
structure Expansion where
  lookups : List Lookup
  result : Result (List String)

namespace Expansion

/-- Where a statement stands. The clauses of an operand of a set operation are in front of the
whole operation. -/
structure Place where
  /-- The scopes around the first clause. -/
  around : Scopes
  /-- The scopes after all clauses, for an operand. -/
  hoisted : Option Scopes := none

namespace Place

/-- The scopes of the entries of a select. -/
def query (p : Place) (s : Select) : Scopes :=
  .query s.sources :: p.hoisted.getD (Walk.withScopes s.withClause p.around)

/-- The place of the left operand. -/
def left (p : Place) (b : SetOperation) : Place :=
  let after := Walk.operandScopes b.right (Walk.operandScopes b.left p.around)
  ⟨p.around, some (p.hoisted.getD after)⟩

end Place

/-- How a nested statement is expanded, given the tables known around it. -/
abbrev Descent := List Declared → Place → Statement → Expansion

/-- One after the other until one fails. -/
def each {α : Type} (f : α → Expansion) : List α → Expansion
  | [] => ⟨[], .ok []⟩
  | a :: as =>
    match (f a).result with
    | .ok names =>
      ⟨(f a).lookups ++ (each f as).lookups, (each f as).result.map (names ++ ·)⟩
    | .error e => ⟨(f a).lookups, .error e⟩

def commonTable (body : Descent) (known : List Declared) (t : Declared) : Expansion :=
  if t.table.columns.isEmpty then body known ⟨t.inner, none⟩ t.table.body
  else ⟨[], .ok t.table.columns⟩

def source (x : Outlook) (query body : Descent) (known : List Declared) (sc : Scopes) :
    Source → Expansion
  | .table none name a =>
    let here : Lookup := ⟨name, known, sc⟩
    match here.taken with
    | some t => ⟨here :: (commonTable body known t).lookups, (commonTable body known t).result⟩
    | none => ⟨[here], x.physical none name (a.getD name)⟩
  | .table (some schema) name a => ⟨[], x.physical (some schema) name (a.getD name)⟩
  | .subquery q a columns _ =>
    if columns.isEmpty then query known ⟨.subquery (some a) :: sc, none⟩ q else ⟨[], .ok columns⟩
  | .function _ _ _ => ⟨[], .ok []⟩

def item (x : Outlook) (query body : Descent) (known : List Declared) (sc : Scopes)
    (ss : List Source) (i : SelectItem) : Expansion :=
  match i.value with
  | .wildcard qualifier => each (source x query body known sc) (Outlook.covered qualifier ss)
  | _ => ⟨[], .ok i.outputName.toList⟩

def select (x : Outlook) (query body : Descent) (known : List Declared) (sc : Scopes)
    (s : Select) : Expansion :=
  each (item x query body known sc s.sources) s.items

/-- The tables of a clause in front of `around`, the last first. -/
def own (around : Scopes) : Option WithClause → List Declared
  | some w => (Declared.ofClause w.tables w.tables.length around).reverse
  | none => []

def step (x : Outlook) (query body : Descent) (known : List Declared) (p : Place) :
    Statement → Expansion
  | .select s => select x query body (own p.around s.withClause ++ known) (p.query s) s
  | .setOp b => query known (p.left b) b.left
  | .values v => ⟨[], .ok (Outlook.valuesNames v)⟩
  | .insert i => ⟨[], .ok (Outlook.itemNames i.returning)⟩
  | .update u => ⟨[], .ok (Outlook.itemNames u.returning)⟩
  | .delete d => ⟨[], .ok (Outlook.itemNames d.returning)⟩
  | .createTable _ => ⟨[], .ok []⟩

def tooDeep : Descent := fun _ _ _ => ⟨[], .error Outlook.tooDeep⟩

def statement (x : Outlook) : Nat → Descent
  | 0 => tooDeep
  | 1 => step x tooDeep tooDeep
  | n + 2 => step x (statement x (n + 1)) (statement x n)

/-- The outputs of an entry of the query whose scopes are those of the outlook. -/
def ofSource (x : Outlook) : Source → Expansion
  | .table none name a =>
    match x.scopes.declared.find? (·.named name) with
    | some t => commonTable (statement x (Outlook.depthLimit - 1)) x.scopes.declared t
    | none => ⟨[], x.physical none name (a.getD name)⟩
  | .table (some schema) name a => ⟨[], x.physical (some schema) name (a.getD name)⟩
  | .subquery q a columns _ =>
    if columns.isEmpty then
      statement x Outlook.depthLimit x.scopes.declared ⟨.subquery (some a) :: x.scopes, none⟩ q
    else ⟨[], .ok columns⟩
  | .function _ _ _ => ⟨[], .ok []⟩

section
variable {x : Outlook} {α : Type}

/-- What is found does not depend on the record of names. -/
lemma result_each {f : α → Expansion} {g : α → Result (List String)} (l : List α)
    (h : ∀ a, (f a).result = g a) :
    (each f l).result = (do let parts ← l.mapM g; return parts.flatten) := by
  induction l with
  | nil => rfl
  | cons a as ih =>
    rw [List.mapM_cons, each, ← h a]
    cases (f a).result with
    | error e => rfl
    | ok names =>
      simp only [ih]
      cases as.mapM g <;> rfl

lemma lookups_subset_each (f : α → Expansion) (a : α) (as : List α) :
    (f a).lookups ⊆ (each f (a :: as)).lookups := by
  rw [each]
  split
  · exact List.subset_append_left _ _
  · exact List.Subset.refl _

/-- The tables that a search knows, and those it finds in the scopes at its start. -/
def Knows (x : Outlook) (known : List Declared) (env : List CommonTable) : Prop :=
  known.map (·.table) = env ++ x.scopes.declared.map (·.table)

/-- A descent with the results of another, whatever is known. -/
def Records (x : Outlook) (d : Descent) (d' : Outlook.Descent) : Prop :=
  ∀ known env, Knows x known env → ∀ p s, (d known p s).result = d' env s

lemma Knows.lookup {known : List Declared} {env : List CommonTable} (h : Knows x known env)
    (name : String) : (known.find? (·.named name)).map (·.table) = x.lookup env name := by
  have hfind : ∀ l : List Declared, (l.find? (·.named name)).map (·.table) =
      (l.map (·.table)).find? fun t => Text.sameName t.name name := by
    intro l
    rw [List.find?_map]
    rfl
  rw [hfind, h, List.find?_append, ← hfind, ← Scopes.resolveTable_eq, Outlook.lookup]
  cases env.find? fun t => Text.sameName t.name name <;> rfl

lemma Knows.extend {known : List Declared} {env : List CommonTable} (h : Knows x known env)
    (sc : Scopes) (w : Option WithClause) :
    Knows x (own sc w ++ known) (Outlook.extend env w) := by
  cases w with
  | none => exact h
  | some w =>
    have hw := Declared.map_table_ofClause w.tables w.tables.length sc
    rw [List.take_length] at hw
    rw [Knows] at h ⊢
    rw [List.map_append, h, own, List.map_reverse, hw, Outlook.extend, List.append_assoc]

variable {query body : Descent} {query' body' : Outlook.Descent}
  {known : List Declared} {env : List CommonTable}

lemma result_commonTable (hb : Records x body body') (h : Knows x known env) (t : Declared) :
    (commonTable body known t).result = Outlook.commonTable body' env t.table := by
  unfold commonTable Outlook.commonTable
  split
  · exact hb known env h _ _
  · rfl

lemma result_source (hq : Records x query query') (hb : Records x body body')
    (h : Knows x known env) (sc : Scopes) (s : Source) :
    (source x query body known sc s).result = x.source query' body' env s := by
  cases s with
  | table schema name a =>
    cases schema with
    | some schema => rfl
    | none =>
      rw [source, Outlook.source, ← h.lookup, Lookup.taken]
      cases known.find? (·.named name) with
      | none => rfl
      | some t => exact result_commonTable hb h t
  | subquery q a columns _ =>
    rw [source, Outlook.source]
    split
    · exact hq known env h _ q
    · rfl
  | function _ _ _ => rfl

lemma result_select (hq : Records x query query') (hb : Records x body body')
    (h : Knows x known env) (sc : Scopes) (s : Select) :
    (select x query body known sc s).result =
      (do let parts ← s.items.mapM (x.item query' body' env s.sources); return parts.flatten) := by
  refine result_each _ fun i => ?_
  obtain ⟨value, aliasName⟩ := i
  cases value with
  | wildcard qualifier => exact result_each _ (result_source hq hb h sc)
  | _ => rfl

lemma result_step (hq : Records x query query') (hb : Records x body body') :
    Records x (step x query body) (x.step query' body') := by
  intro known env h p s
  cases s with
  | select s => exact result_select hq hb (h.extend _ _) _ s
  | setOp b => exact hq known env h _ b.left
  | _ => rfl

lemma result_tooDeep : Records x tooDeep fun _ _ => .error Outlook.tooDeep :=
  fun _ _ _ _ _ => rfl

lemma result_statement : ∀ n, Records x (statement x n) (x.statement n)
  | 0 => result_tooDeep
  | 1 => result_step result_tooDeep result_tooDeep
  | n + 2 => result_step (result_statement (n + 1)) (result_statement n)

/-- The columns found for an entry of the query are those of the outlook. -/
lemma result_ofSource {ss : List Source} {below : Scopes} (hx : x.scopes = .query ss :: below)
    (s : Source) : (ofSource x s).result = x.ofRelation s (Scopes.relation below s) := by
  have hd : x.scopes.declared = below.declared := by rw [hx, Scopes.declared]; simp
  have hk : Knows x x.scopes.declared [] := rfl
  cases s with
  | table schema name a =>
    cases schema with
    | some schema => rfl
    | none =>
      rw [ofSource, Scopes.relation, Scopes.resolveTable_eq, ← hd]
      cases x.scopes.declared.find? (·.named name) with
      | none => rfl
      | some t => exact result_commonTable (result_statement _) hk t
  | subquery q a columns _ =>
    rw [ofSource, Scopes.relation, Outlook.ofRelation]
    split
    · exact result_statement _ _ _ hk _ q
    · rfl
  | function _ _ _ => rfl

end

/-- A property of the names looked up, as long as they are all as `given`. -/
def Keeps (given Q : Lookup → Prop) (e : Expansion) : Prop :=
  (∀ m ∈ e.lookups, given m) → ∀ m ∈ e.lookups, Q m

/-- What every step of a search passes on: `P` from a statement to those inside and to the bodies
of the tables taken, and `Q` to the names looked up. -/
structure Carried (given : Lookup → Prop) (P : List Declared → Place → Statement → Prop)
    (Q : Lookup → Prop) : Prop where
  left : ∀ known p b, P known p (.setOp b) → P known (p.left b) b.left
  derived : ∀ known p s q a columns lateral, P known p (.select s) →
    .subquery q a columns lateral ∈ s.sources →
    P (own p.around s.withClause ++ known) ⟨.subquery (some a) :: p.query s, none⟩ q
  name : ∀ known p s name a, P known p (.select s) → .table none name a ∈ s.sources →
    Q ⟨name, own p.around s.withClause ++ known, p.query s⟩
  table : ∀ m t, Q m → given m → m.taken = some t → P m.known ⟨t.inner, none⟩ t.table.body

section
variable {given Q : Lookup → Prop} {P : List Declared → Place → Statement → Prop}

lemma keeps_nil (r : Result (List String)) : Keeps given Q ⟨[], r⟩ :=
  fun _ _ hm => absurd hm List.not_mem_nil

lemma keeps_each {α : Type} {f : α → Expansion} (l : List α)
    (h : ∀ a ∈ l, Keeps given Q (f a)) : Keeps given Q (each f l) := by
  induction l with
  | nil => exact keeps_nil _
  | cons a as ih =>
    rw [each]
    split
    · intro hg m hm
      rcases List.mem_append.mp hm with hm | hm
      · exact h a List.mem_cons_self (fun m hm => hg m (List.mem_append_left _ hm)) m hm
      · exact ih (fun a ha => h a (List.mem_cons_of_mem _ ha))
          (fun m hm => hg m (List.mem_append_right _ hm)) m hm
    · exact h a List.mem_cons_self

namespace Carried

/-- A descent keeps `Q` from statements with `P` on. -/
def Through (given : Lookup → Prop) (P : List Declared → Place → Statement → Prop)
    (Q : Lookup → Prop) (d : Descent) : Prop :=
  ∀ known p s, P known p s → Keeps given Q (d known p s)

variable {x : Outlook} {query body : Descent}

lemma commonTable (hb : Through given P Q body) {known : List Declared} {t : Declared}
    (h : P known ⟨t.inner, none⟩ t.table.body) :
    Keeps given Q (Expansion.commonTable body known t) := by
  unfold Expansion.commonTable
  split
  · exact hb known _ _ h
  · exact keeps_nil _

variable (hc : Carried given P Q)
include hc

lemma source (hq : Through given P Q query) (hb : Through given P Q body)
    {known : List Declared} {p : Place} {s : Select} (h : P known p (.select s)) {e : Source}
    (he : e ∈ s.sources) :
    Keeps given Q
      (Expansion.source x query body (own p.around s.withClause ++ known) (p.query s) e) := by
  cases e with
  | table schema name a =>
    cases schema with
    | some schema => exact keeps_nil _
    | none =>
      have hQ := hc.name known p s name a h he
      rw [Expansion.source]
      split
      · next t ht =>
        intro hg
        have hbody := hc.table _ t hQ (hg _ List.mem_cons_self) ht
        have hrest := commonTable hb hbody fun m hm => hg m (List.mem_cons_of_mem _ hm)
        exact List.forall_mem_cons.mpr ⟨hQ, hrest⟩
      · exact fun _ => List.forall_mem_singleton.mpr hQ
  | subquery q a columns lateral =>
    rw [Expansion.source]
    split
    · exact hq _ _ q (hc.derived known p s q a columns lateral h he)
    · exact keeps_nil _
  | function _ _ _ => exact keeps_nil _

lemma step (hq : Through given P Q query) (hb : Through given P Q body) :
    Through given P Q (Expansion.step x query body) := by
  intro known p s h
  cases s with
  | select s =>
    refine keeps_each s.items fun i _ => ?_
    obtain ⟨value, aliasName⟩ := i
    cases value with
    | wildcard qualifier =>
      refine keeps_each _ fun e he => hc.source hq hb h ?_
      cases qualifier with
      | none => exact he
      | some q => exact (List.mem_filter.mp he).1
    | _ => exact keeps_nil _
  | setOp b => exact hq known _ _ (hc.left known p b h)
  | _ => exact keeps_nil _

lemma statement : ∀ n, Through given P Q (Expansion.statement x n)
  | 0 => fun _ _ _ _ => keeps_nil _
  | 1 => hc.step (fun _ _ _ _ => keeps_nil _) (fun _ _ _ _ => keeps_nil _)
  | n + 2 => hc.step (statement (n + 1)) (statement n)

/-- A search keeps `Q` if `P` holds where it starts. -/
lemma ofSource {e : Source}
    (htable : ∀ t ∈ x.scopes.declared, P x.scopes.declared ⟨t.inner, none⟩ t.table.body)
    (hquery : ∀ q a columns lateral, e = .subquery q a columns lateral →
      P x.scopes.declared ⟨.subquery (some a) :: x.scopes, none⟩ q) :
    Keeps given Q (Expansion.ofSource x e) := by
  cases e with
  | table schema name a =>
    cases schema with
    | some schema => exact keeps_nil _
    | none =>
      rw [Expansion.ofSource]
      split
      · next t ht =>
        exact commonTable (hc.statement _) (htable t (List.mem_of_find?_eq_some ht))
      · exact keeps_nil _
  | subquery q a columns lateral =>
    rw [Expansion.ofSource]
    split
    · exact hc.statement _ _ _ q (hquery q a columns lateral rfl)
    · exact keeps_nil _
  | function _ _ _ => exact keeps_nil _

end Carried

end

end Expansion

end SqlLoom
