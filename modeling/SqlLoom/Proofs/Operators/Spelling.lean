import Mathlib.Data.List.Chain
import SqlLoom.Proofs.Layout.Texts
import SqlLoom.Proofs.Text

/-! The tokens of expressions that are built with operators, and their spelling. No word is the
beginning of another, a quoted name ends where it seems to, and a data type ends where an operator
goes on, so that a text is spelled by one run of tokens only. -/
namespace SqlLoom

/-- The fixed words between columns. -/
inductive Mark where
  | opening | closing | comma
  | binary (op : BinaryOp)
  | unary (op : UnaryOp)
  | isNull (negated : Bool)
  /-- Up to the parenthesis before the list. -/
  | inList (negated : Bool)
  | between (negated : Bool)
  deriving DecidableEq

inductive ExprToken where
  | column (qualifier : Option String) (name : String)
  | cast (dataType : String)
  | mark (m : Mark)

namespace Mark

def text : Mark → String
  | .opening => "("
  | .closing => ")"
  | .comma => ", "
  | .binary op => " " ++ Layout.opText op ++ " "
  | .unary .not => "NOT "
  | .unary .minus => "-"
  | .unary .plus => "+"
  | .isNull negated => if negated then " IS NOT NULL" else " IS NULL"
  | .inList negated => " " ++ Layout.notText negated ++ "IN ("
  | .between negated => " " ++ Layout.notText negated ++ "BETWEEN "

/-- Whether it can stand behind an operand. -/
def follows : Mark → Bool
  | .opening | .unary _ => false
  | _ => true

def all : List Mark :=
  [.opening, .closing, .comma, .unary .not, .unary .minus, .unary .plus, .isNull true,
    .isNull false, .inList true, .inList false, .between true, .between false] ++
  [.eq, .notEq, .lt, .ltEq, .gt, .gtEq, .and, .or, .plus, .minus, .multiply, .divide, .modulo,
    .like, .ilike, .notLike, .notIlike, .concat].map .binary

lemma mem_all (m : Mark) : m ∈ all := by
  cases m with
  | opening => decide
  | closing => decide
  | comma => decide
  | binary op => cases op <;> decide
  | unary op => cases op <;> decide
  | isNull negated => cases negated <;> decide
  | inList negated => cases negated <;> decide
  | between negated => cases negated <;> decide

/-- No word is the beginning of another. -/
lemma eq_of_prefix {m m' : Mark} (h : m.text.toList <+: m'.text.toList) : m = m' := by
  have hall : ∀ m ∈ all, ∀ m' ∈ all, m.text.toList <+: m'.text.toList → m = m' := by
    decide +kernel
  exact hall m (mem_all m) m' (mem_all m') h

/-- The words that go on behind an operand. -/
def followers : List String := "::" :: (all.filter follows).map text

lemma text_mem_followers {m : Mark} (h : m.follows = true) : m.text ∈ followers :=
  List.mem_cons_of_mem _ (List.mem_map_of_mem (List.mem_filter.mpr ⟨mem_all m, h⟩))

end Mark

namespace ExprToken

def pieces : ExprToken → List Piece
  | .column q n => Layout.qualified q n
  | .cast t => [.word ("::" ++ t)]
  | .mark m => [.word m.text]

/-- How a token is spelled when names are quoted. -/
def chars (p : Preset) : ExprToken → List Char
  | .column none n => (p.quoteName n).toList
  | .column (some q) n => (p.quoteName q).toList ++ '.' :: (p.quoteName n).toList
  | .cast t => ':' :: ':' :: t.toList
  | .mark m => m.text.toList

/-- Whether it ends an operand with text of its own. -/
def isOpen : ExprToken → Bool
  | .mark _ => false
  | _ => true

/-- Whether it can stand behind an operand. -/
def follows : ExprToken → Bool
  | .column _ _ => false
  | .cast _ => true
  | .mark m => m.follows

end ExprToken

/-- Behind a column or a data type stands what can follow an operand. -/
abbrev Spaced (ts : List ExprToken) : Prop :=
  ts.IsChain fun t t' => t.isOpen = true → t'.follows = true

/-- A text that is empty or goes on as text does behind an operand. -/
def Followed (cs : List Char) : Prop := cs = [] ∨ ∃ w ∈ Mark.followers, w.toList <+: cs

/-- A data type does not go on behind another one as text does behind an operand. -/
def TypeApart (t t' : String) : Prop :=
  ∀ u, t'.toList = t.toList ++ u → u = [] ∨
    ∀ w ∈ Mark.followers, ¬ w.toList <+: u ∧ ¬ u <+: w.toList

namespace Layout

def spelled (ts : List ExprToken) : List Piece := ts.flatMap ExprToken.pieces

@[simp] lemma spelled_nil : spelled [] = [] := rfl

@[simp] lemma spelled_cons (t : ExprToken) (ts : List ExprToken) :
    spelled (t :: ts) = t.pieces ++ spelled ts := rfl

@[simp] lemma spelled_append (ts ts' : List ExprToken) :
    spelled (ts ++ ts') = spelled ts ++ spelled ts' := List.flatMap_append

lemma toList_texts_spelled (o : FormatOptions) (ho : o.quoteNames = true) (r : Registry)
    (ts : List ExprToken) :
    (String.join (texts o r (spelled ts))).toList = ts.flatMap (ExprToken.chars o.preset) := by
  induction ts with
  | nil => rfl
  | cons t ts ih =>
    cases t with
    | column q n =>
      cases q <;> simp [ExprToken.pieces, ExprToken.chars, qualified, texts, pieceText, ho, ih]
    | cast t => simp [ExprToken.pieces, ExprToken.chars, texts, pieceText, ih]
    | mark m => simp [ExprToken.pieces, ExprToken.chars, texts, pieceText, ih]

lemma toList_text_spelled (o : FormatOptions) (ho : o.quoteNames = true) (ts : List ExprToken) :
    (text o (spelled ts)).toList = ts.flatMap (ExprToken.chars o.preset) :=
  toList_texts_spelled o ho {} ts

end Layout

lemma Spaced.followed {p : Preset} {t : ExprToken} {ts : List ExprToken} (h : Spaced (t :: ts))
    (ht : t.isOpen = true) : Followed (ts.flatMap (ExprToken.chars p)) := by
  cases ts with
  | nil => exact .inl rfl
  | cons t' ts =>
    have hf : t'.follows = true := (List.isChain_cons_cons.mp h).1 ht
    cases t' with
    | column q n => exact absurd hf Bool.false_ne_true
    | cast t => exact .inr ⟨"::", by decide, ⟨t.toList ++ ts.flatMap (ExprToken.chars p), rfl⟩⟩
    | mark m => exact .inr ⟨m.text, Mark.text_mem_followers hf, List.prefix_append _ _⟩

/-- What follows an operand starts with no quote and no point. -/
lemma Followed.head?_ne {cs : List Char} (h : Followed cs) {c : Char} (hc : c ∈ ['"', '`', ']', '.']) :
    cs.head? ≠ some c := by
  have hall : ∀ w ∈ Mark.followers, w.toList ≠ [] ∧
      (w.toList.head?.any fun c => c ∈ ['"', '`', ']', '.']) = false := by decide +kernel
  rcases h with rfl | ⟨w, hw, rest, rfl⟩
  · simp
  · obtain ⟨hne, hhead⟩ := hall w hw
    rw [List.head?_append_of_ne_nil _ hne]
    intro heq
    rw [heq, Option.any_some, decide_eq_false_iff_not] at hhead
    exact hhead hc

section
variable {p : Preset}

lemma Preset.toList_quoteName (n : String) :
    (p.quoteName n).toList = p.quotes.1 :: (Text.double p.quotes.2 n.toList ++ [p.quotes.2]) := by
  simp [quoteName, Text.enclose]

/-- A quoted name ends with its closing quote. -/
lemma Preset.quoteName_append_inj {n n' : String} {cs cs' : List Char}
    (hcs : cs.head? ≠ some p.quotes.2) (hcs' : cs'.head? ≠ some p.quotes.2)
    (h : (p.quoteName n).toList ++ cs = (p.quoteName n').toList ++ cs') : n = n' ∧ cs = cs' := by
  simp only [toList_quoteName, List.cons_append, List.append_assoc, List.cons.injEq, true_and,
    List.nil_append] at h
  have hread := Text.readEnclosed_double hcs n.toList
  rw [h, Text.readEnclosed_double hcs' n'.toList] at hread
  simp only [Option.some.injEq, Prod.mk.injEq, String.toList_inj] at hread
  exact ⟨hread.1.symm, hread.2.symm⟩

namespace ExprToken

lemma closing_mem (p : Preset) : p.quotes.2 ∈ ['"', '`', ']', '.'] := by cases p <;> decide

lemma point_ne_closing (p : Preset) (cs : List Char) : ('.' :: cs).head? ≠ some p.quotes.2 := by
  cases p <;> simp [Preset.quotes, Preset.backtick]

lemma column_inj {q q' : Option String} {n n' : String} {cs cs' : List Char} (hcs : Followed cs)
    (hcs' : Followed cs') (h : chars p (.column q n) ++ cs = chars p (.column q' n') ++ cs') :
    (q = q' ∧ n = n') ∧ cs = cs' := by
  have hq := hcs.head?_ne (closing_mem p)
  have hq' := hcs'.head?_ne (closing_mem p)
  cases q with
  | none =>
    cases q' with
    | none =>
      obtain ⟨rfl, rfl⟩ := Preset.quoteName_append_inj hq hq' h
      exact ⟨⟨rfl, rfl⟩, rfl⟩
    | some q' =>
      simp only [chars, List.append_assoc, List.cons_append] at h
      obtain ⟨-, rfl⟩ := Preset.quoteName_append_inj hq (point_ne_closing p _) h
      exact absurd rfl (hcs.head?_ne (by decide : '.' ∈ ['"', '`', ']', '.']))
  | some q =>
    cases q' with
    | none =>
      simp only [chars, List.append_assoc, List.cons_append] at h
      obtain ⟨-, rfl⟩ := Preset.quoteName_append_inj (point_ne_closing p _) hq' h
      exact absurd rfl (hcs'.head?_ne (by decide : '.' ∈ ['"', '`', ']', '.']))
    | some q' =>
      simp only [chars, List.append_assoc, List.cons_append] at h
      obtain ⟨rfl, htail⟩ :=
        Preset.quoteName_append_inj (point_ne_closing p _) (point_ne_closing p _) h
      obtain ⟨rfl, rfl⟩ := Preset.quoteName_append_inj hq hq' (List.cons.inj htail).2
      exact ⟨⟨rfl, rfl⟩, rfl⟩

lemma cast_inj {t t' : String} {cs cs' : List Char} (ht : TypeApart t t') (ht' : TypeApart t' t)
    (hcs : Followed cs) (hcs' : Followed cs')
    (h : chars p (.cast t) ++ cs = chars p (.cast t') ++ cs') : t = t' ∧ cs = cs' := by
  -- What the longer type has more would be the beginning of what follows the shorter one.
  have hlonger : ∀ {t t' : String} {u cs cs' : List Char}, TypeApart t t' → Followed cs →
      t'.toList = t.toList ++ u → cs = u ++ cs' → u = [] := by
    intro t t' u cs cs' ht hcs htu hu
    rcases ht u htu with hnil | hw
    · exact hnil
    · rcases hcs with rfl | ⟨w, hmem, hpre⟩
      · exact (List.append_eq_nil_iff.mp hu.symm).1
      · rw [hu] at hpre
        rcases List.prefix_or_prefix_of_prefix hpre (List.prefix_append u cs') with hp | hp
        · exact absurd hp (hw w hmem).1
        · exact absurd hp (hw w hmem).2
  simp only [chars, List.cons_append, List.cons.injEq, true_and] at h
  rcases List.append_eq_append_iff.mp h with ⟨u, htu, hu⟩ | ⟨u, htu, hu⟩
  · obtain rfl := hlonger ht hcs htu hu
    exact ⟨(String.toList_inj.mp (by simpa using htu)).symm, by simpa using hu⟩
  · obtain rfl := hlonger ht' hcs' htu hu
    exact ⟨String.toList_inj.mp (by simpa using htu), by simpa using hu.symm⟩

lemma mark_inj {m m' : Mark} {cs cs' : List Char}
    (h : chars p (.mark m) ++ cs = chars p (.mark m') ++ cs') : m = m' ∧ cs = cs' := by
  have hpre : m.text.toList <+: m'.text.toList ++ cs' := ⟨cs, h⟩
  rcases List.prefix_or_prefix_of_prefix hpre (List.prefix_append _ cs') with hp | hp
  · obtain rfl := Mark.eq_of_prefix hp
    exact ⟨rfl, List.append_cancel_left h⟩
  · obtain rfl := Mark.eq_of_prefix hp
    exact ⟨rfl, List.append_cancel_left h⟩

/-- The first character tells columns, data types and words apart. -/
lemma head?_chars (p : Preset) (t : ExprToken) :
    (∃ q n, t = .column q n ∧ t.chars p ≠ [] ∧ (t.chars p).head? = some p.quotes.1) ∨
    (∃ d, t = .cast d ∧ t.chars p ≠ [] ∧ (t.chars p).head? = some ':') ∨
    (∃ m, t = .mark m ∧ t.chars p ≠ [] ∧ (t.chars p).head? ≠ some p.quotes.1 ∧
      (t.chars p).head? ≠ some ':') := by
  cases t with
  | column q n =>
    refine .inl ⟨q, n, rfl, ?_⟩
    cases q <;> simp [chars, Preset.toList_quoteName]
  | cast t => exact .inr (.inl ⟨t, rfl, by simp [chars]⟩)
  | mark m =>
    have hall : ∀ p ∈ Preset.all, ∀ m ∈ Mark.all, m.text.toList ≠ [] ∧
        m.text.toList.head? ≠ some p.quotes.1 ∧ m.text.toList.head? ≠ some ':' := by
      decide +kernel
    exact .inr (.inr ⟨m, rfl, hall p (by cases p <;> decide) m m.mem_all⟩)

lemma chars_ne_nil (t : ExprToken) : t.chars p ≠ [] := by
  rcases head?_chars p t with ⟨_, _, -, h, -⟩ | ⟨_, -, h, -⟩ | ⟨_, -, h, -⟩ <;> exact h

lemma quote_ne_colon (p : Preset) : p.quotes.1 ≠ ':' := by
  cases p <;> simp [Preset.quotes, Preset.backtick]

/-- A text starts with one token only. -/
lemma chars_append_inj {t t' : ExprToken} {cs cs' : List Char}
    (hcs : t.isOpen = true → Followed cs) (hcs' : t'.isOpen = true → Followed cs')
    (hc : ∀ d d', t = .cast d → t' = .cast d' → TypeApart d d' ∧ TypeApart d' d)
    (h : t.chars p ++ cs = t'.chars p ++ cs') : t = t' ∧ cs = cs' := by
  have hhead : (t.chars p).head? = (t'.chars p).head? := by
    have hsame := congrArg List.head? h
    rwa [List.head?_append_of_ne_nil _ t.chars_ne_nil,
      List.head?_append_of_ne_nil _ t'.chars_ne_nil] at hsame
  have hquote := quote_ne_colon p
  have hcolon := hquote.symm
  rcases head?_chars p t with ⟨q, n, rfl, -, ht⟩ | ⟨d, rfl, -, ht⟩ | ⟨m, rfl, -, ht, htc⟩ <;>
  rcases head?_chars p t' with ⟨q', n', rfl, -, ht'⟩ | ⟨d', rfl, -, ht'⟩ | ⟨m', rfl, -, ht', htc'⟩
  case inl.inl =>
    obtain ⟨⟨rfl, rfl⟩, rfl⟩ := column_inj (hcs rfl) (hcs' rfl) h
    exact ⟨rfl, rfl⟩
  case inr.inl.inr.inl =>
    obtain ⟨hd, hd'⟩ := hc d d' rfl rfl
    obtain ⟨rfl, rfl⟩ := cast_inj hd hd' (hcs rfl) (hcs' rfl) h
    exact ⟨rfl, rfl⟩
  case inr.inr.inr.inr =>
    obtain ⟨rfl, rfl⟩ := mark_inj h
    exact ⟨rfl, rfl⟩
  all_goals simp_all

/-- A text is spelled by one run of tokens only. -/
lemma eq_of_chars_eq {ts ts' : List ExprToken} (hts : Spaced ts) (hts' : Spaced ts')
    (hc : ∀ d d', .cast d ∈ ts → .cast d' ∈ ts' → TypeApart d d' ∧ TypeApart d' d)
    (h : ts.flatMap (chars p) = ts'.flatMap (chars p)) : ts = ts' := by
  induction ts generalizing ts' with
  | nil =>
    cases ts' with
    | nil => rfl
    | cons t' ts' => exact absurd (List.append_eq_nil_iff.mp h.symm).1 t'.chars_ne_nil
  | cons t ts ih =>
    cases ts' with
    | nil => exact absurd (List.append_eq_nil_iff.mp h).1 t.chars_ne_nil
    | cons t' ts' =>
      obtain ⟨rfl, htail⟩ := chars_append_inj hts.followed hts'.followed
        (by rintro d d' rfl rfl; exact hc d d' (by simp) (by simp)) h
      have hrest : ts = ts' := ih (List.IsChain.tail hts) (List.IsChain.tail hts')
        (fun d d' hd hd' => hc d d' (by simp [hd]) (by simp [hd'])) htail
      rw [hrest]

end ExprToken

end

end SqlLoom
