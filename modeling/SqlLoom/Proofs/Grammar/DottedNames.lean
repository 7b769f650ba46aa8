import Mathlib.Tactic.Lemma
import SqlLoom.Grammar.Denote
import SqlLoom.Render

/-! How names of several parts are written. All parts in front of the last are kept as one name with
points in it, and quoted as one. -/
namespace SqlLoom

namespace Text

lemma double_append (c : Char) (xs ys : List Char) :
    double c (xs ++ ys) = double c xs ++ double c ys := by
  induction xs with
  | nil => rfl
  | cons x xs ih =>
    simp only [List.cons_append, double, ih]
    split <;> rfl

end Text

namespace Preset

/-- Names quoted one by one, with points between them. -/
def quoteAll (p : Preset) (names : List String) : String :=
  String.intercalate "." (names.map p.quoteName)

lemma quoteAll_singleton (p : Preset) (name : String) : p.quoteAll [name] = p.quoteName name :=
  String.intercalate_singleton

lemma length_quoteName (p : Preset) (name : String) :
    (p.quoteName name).length = (Text.double p.quotes.2 name.toList).length + 2 := by
  simp only [quoteName, Text.enclose, String.length_ofList, List.length_append, List.length_cons,
    List.length_nil]

/-- No preset quotes with points. -/
lemma length_double_point (p : Preset) : (Text.double p.quotes.2 ".".toList).length = 1 := by
  cases p <;> decide

/-- Two quotes for each name. -/
lemma length_quoteAll (p : Preset) {names : List String} (h : names ≠ []) :
    (p.quoteAll names).length =
      (Text.double p.quotes.2 (String.intercalate "." names).toList).length + 2 * names.length := by
  induction names with
  | nil => exact absurd rfl h
  | cons name names ih =>
    cases names with
    | nil =>
      rw [quoteAll_singleton, length_quoteName, String.intercalate_singleton, List.length_singleton]
    | cons next names =>
      have hpoint : ".".length = 1 := rfl
      specialize ih (List.cons_ne_nil _ _)
      simp only [quoteAll, List.map_cons] at ih
      simp only [quoteAll, List.map_cons, String.intercalate_cons_cons, String.length_append,
        String.toList_append, Text.double_append, List.length_append, length_quoteName,
        length_double_point, List.length_cons, ih]
      omega

/-- A name that has been put together is quoted as its parts only if it has one part. -/
lemma quoteName_intercalate_eq_iff (p : Preset) {names : List String} (h : names ≠ []) :
    p.quoteName (String.intercalate "." names) = p.quoteAll names ↔ names.length = 1 := by
  constructor
  · intro heq
    have hlength := congrArg String.length heq
    rw [length_quoteName, p.length_quoteAll h] at hlength
    omega
  · intro hone
    obtain ⟨name, rfl⟩ := List.length_eq_one_iff.mp hone
    exact (p.quoteAll_singleton name).symm ▸ congrArg p.quoteName String.intercalate_singleton

lemma quoteAll_concat (p : Preset) {names : List String} (h : names ≠ []) (name : String) :
    p.quoteAll (names ++ [name]) = p.quoteAll names ++ "." ++ p.quoteName name := by
  have hmap : names.map p.quoteName ≠ [] := by simpa using h
  rw [quoteAll, List.map_append, List.map_singleton,
    String.intercalate_append_of_ne_nil hmap (List.cons_ne_nil _ _), String.intercalate_singleton,
    quoteAll]

lemma quoteAll_pair_eq_iff (p : Preset) {names : List String} (h : names ≠ []) (name : String) :
    p.quoteAll [String.intercalate "." names, name] = p.quoteAll (names ++ [name]) ↔
      names.length = 1 := by
  have hpair := p.quoteAll_concat (List.cons_ne_nil (String.intercalate "." names) []) name
  rw [List.singleton_append] at hpair
  rw [hpair, p.quoteAll_concat h, String.append_left_inj, String.append_left_inj,
    quoteAll_singleton, p.quoteName_intercalate_eq_iff h]

end Preset

namespace Layout

variable {o : FormatOptions} (ho : o.quoteNames = true)

include ho

lemma text_qualified (schema name : String) (after : List Piece) :
    text o (qualified (some schema) name ++ after) =
      o.preset.quoteAll [schema, name] ++ text o after := by
  simp [text, texts, pieceText, qualified, ho, Preset.quoteAll, String.join_cons,
    String.append_assoc]

lemma text_wildcard (qualifier : String) :
    text o (expr 0 (.wildcard (some qualifier))) = o.preset.quoteAll [qualifier] ++ ".*" := by
  simp [text, texts, pieceText, expr, ho, Preset.quoteAll, String.join]

end Layout

namespace Grammar.Denote

lemma splitName_concat {front : List Ident} (hfront : front ≠ []) (last : Ident) :
    splitName (front ++ [last]) = (some (Ident.path front), last.value) := by
  simp [splitName, Ident.path, hfront]

/-- A name of several parts is quoted as one of two, the last part and all others with points
between them, and in front of `.*` as one of one part. So each part is quoted by itself exactly if
there are two and the name is that of a column or of a table. -/
theorem dotted_name_quoted {front : List Ident} (hfront : front ≠ []) (last : Ident)
    {o : FormatOptions} (ho : o.quoteNames = true) (n : Nat) :
    let parts := front ++ [last]
    let names := parts.map (·.value)
    (∃ e, (expr (.compound parts)).run n = .ok (e, n) ∧
      e.format o = o.preset.quoteAll [Ident.path front, last.value] ∧
      (e.format o = o.preset.quoteAll names ↔ parts.length = 2)) ∧
    (∀ partitions before a after, ∃ x,
      (factor (.table parts partitions none before a after)).run n = .ok (x, n) ∧
      ∀ d, let text := Layout.text o (Layout.source d x)
        let aliasText := Layout.text o (Layout.aliased (a.map (·.name.value)))
        text = o.preset.quoteAll [Ident.path front, last.value] ++ aliasText ∧
        (text = o.preset.quoteAll names ++ aliasText ↔ parts.length = 2)) ∧
    ∀ star options, ∃ e,
      (selectItems [.qualifiedWildcard parts star options]).run n = .ok ([⟨e, none⟩], n) ∧
      e.format o = o.preset.quoteAll [Ident.path parts] ++ ".*" ∧
      e.format o ≠ o.preset.quoteAll names ++ ".*" := by
  intro parts names
  have hfolded : o.preset.quoteAll [Ident.path front, last.value] = o.preset.quoteAll names ↔
      parts.length = 2 := by
    have hnames : names = front.map (·.value) ++ [last.value] := List.map_append
    have hfront : front.map (·.value) ≠ [] := by simpa using hfront
    rw [hnames, Ident.path, o.preset.quoteAll_pair_eq_iff hfront, List.length_map,
      List.length_append, List.length_singleton]
    omega
  have hsplit : splitName parts = (some (Ident.path front), last.value) :=
    splitName_concat hfront last
  refine ⟨⟨_, rfl, ?_⟩, fun partitions before a after => ⟨_, rfl, fun d => ?_⟩,
    fun star options => ⟨_, rfl, ?_⟩⟩
  · have htext : (SqlLoom.Expr.column (splitName parts).1 (splitName parts).2).format o =
        o.preset.quoteAll [Ident.path front, last.value] := by
      rw [hsplit]
      exact (Layout.text_qualified ho _ _ []).trans String.append_empty
    rw [htext]
    exact ⟨rfl, hfolded⟩
  · rw [hsplit]
    intro text aliasText
    have htext : text = o.preset.quoteAll [Ident.path front, last.value] ++ aliasText :=
      Layout.text_qualified ho _ _ _
    refine ⟨htext, ?_⟩
    rw [htext, String.append_left_inj]
    exact hfolded
  · have htext := Layout.text_wildcard ho (Ident.path parts)
    refine ⟨htext, fun heq => ?_⟩
    have hquoted := (String.append_left_inj _).mp (htext.symm.trans heq)
    rw [Preset.quoteAll_singleton] at hquoted
    have hnames : names ≠ [] := by simp [names, parts]
    have hone := (o.preset.quoteName_intercalate_eq_iff hnames).mp hquoted
    simp only [names, parts, List.length_map, List.length_append, List.length_singleton] at hone
    exact hfront (List.length_eq_zero_iff.mp (Nat.succ.inj hone))

/-- The schema and the table of `public.users.id` become one name. -/
theorem dotted_name_quoted_schema :
    let name : String → Ident := fun value => ⟨value, none, {}⟩
    let o : FormatOptions := { preset := .postgres }
    ∃ e, (expr (.compound [name "public", name "users", name "id"])).run 0 = .ok (e, 0) ∧
      e.format o = "\"public.users\".\"id\"" ∧
      e.format o ≠ o.preset.quoteAll ["public", "users", "id"] := by
  intro name o
  have hfront : [name "public", name "users"] ≠ [] := List.cons_ne_nil _ _
  obtain ⟨⟨e, he, htext, hparts⟩, -, -⟩ := dotted_name_quoted hfront (name "id") (o := o) rfl 0
  refine ⟨e, he, htext.trans (by decide), fun h => ?_⟩
  have htwo : 3 = 2 := hparts.mp h
  omega

end Grammar.Denote

end SqlLoom
