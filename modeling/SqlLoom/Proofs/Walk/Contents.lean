import SqlLoom.Proofs.Walk.Likeness
import SqlLoom.Report.Parameters

/-! What the reports of a walk hold: FROM entries, value expressions, placeholders. Of two walks that
report alike, the placeholders stand in the same order under the same names. -/
namespace SqlLoom

def Event.entry? : Event → Option (Source × Scopes)
  | .source x sc => some (x, sc)
  | _ => none

/-- The FROM entries among reports. -/
def entries (es : List Event) : List (Source × Scopes) := es.filterMap Event.entry?

lemma mem_entries {es : List Event} {x : Source} {sc : Scopes} :
    (x, sc) ∈ entries es ↔ .source x sc ∈ es := by
  rw [entries, List.mem_filterMap]
  constructor
  · rintro ⟨e, he, hx⟩
    cases e with
    | source y sc' =>
      cases hx
      exact he
    | _ => cases hx
  · exact fun h => ⟨_, h, rfl⟩

@[simp] lemma entries_nil : entries [] = [] := rfl

@[simp] lemma entries_cons (e : Event) (es : List Event) :
    entries (e :: es) = e.entry?.toList ++ entries es := by
  cases h : e.entry? <;> simp [entries, h]

@[simp] lemma entries_append (es es' : List Event) :
    entries (es ++ es') = entries es ++ entries es' := by
  simp [entries]

@[simp] lemma entries_inside (f : Frame) (sc : Scopes) (body : Scopes → List Event) :
    entries (Tour.inside f sc body) = entries (body (f :: sc)) := by
  simp [Tour.inside, Event.entry?]

@[simp] lemma entries_leaves (n : Nat) (sc : Scopes) : entries (Tour.leaves n sc) = [] := by
  induction n generalizing sc with
  | zero => simp [Tour.leaves]
  | succ n ih => cases sc <;> simp [Tour.leaves, Event.entry?, ih]

@[simp] lemma entries_again (asOperand : Bool) (s : Statement) (sc : Scopes) :
    entries (Tour.again asOperand (.statement s sc)) = [] := by
  cases asOperand <;> simp [Tour.again, Event.entry?]

def Event.value? : Event → Option Expr
  | .value _ e _ => some e
  | _ => none

/-- The value expressions among reports. -/
def values (es : List Event) : List Expr := es.filterMap Event.value?

@[simp] lemma values_cons (e : Event) (es : List Event) :
    values (e :: es) = e.value?.toList ++ values es := by
  cases h : e.value? <;> simp [values, h]

/-- The placeholders among reports. -/
def placeholders (es : List Event) : List Occurrence := es.filterMap Report.placeholder

@[simp] lemma placeholders_nil : placeholders [] = [] := rfl

@[simp] lemma placeholders_cons (e : Event) (es : List Event) :
    placeholders (e :: es) = (Report.placeholder e).toList ++ placeholders es := by
  cases h : Report.placeholder e <;> simp [placeholders, h]

@[simp] lemma placeholders_append (es es' : List Event) :
    placeholders (es ++ es') = placeholders es ++ placeholders es' := by
  simp [placeholders]

@[simp] lemma placeholders_inside (f : Frame) (sc : Scopes) (body : Scopes → List Event) :
    placeholders (Tour.inside f sc body) = placeholders (body (f :: sc)) := by
  simp [Tour.inside, Report.placeholder]

@[simp] lemma placeholders_leaves (n : Nat) (sc : Scopes) : placeholders (Tour.leaves n sc) = [] := by
  induction n generalizing sc with
  | zero => simp [Tour.leaves]
  | succ n ih => cases sc <;> simp [Tour.leaves, Report.placeholder, ih]

@[simp] lemma placeholders_again (asOperand : Bool) (s : Statement) (sc : Scopes) :
    placeholders (Tour.again asOperand (.statement s sc)) = [] := by
  cases asOperand <;> simp [Tour.again, Report.placeholder]

/-- The names of the placeholders among reports. -/
def placeholderNames (es : List Event) : List String := (placeholders es).map (·.name)

@[simp] lemma placeholderNames_nil : placeholderNames [] = [] := rfl

@[simp] lemma placeholderNames_cons (e : Event) (es : List Event) :
    placeholderNames (e :: es) =
      ((Report.placeholder e).map (·.name)).toList ++ placeholderNames es := by
  cases h : Report.placeholder e <;> simp [placeholderNames, h]

@[simp] lemma placeholderNames_append (es es' : List Event) :
    placeholderNames (es ++ es') = placeholderNames es ++ placeholderNames es' := by
  simp [placeholderNames]

@[simp] lemma placeholderNames_inside (f : Frame) (sc : Scopes) (body : Scopes → List Event) :
    placeholderNames (Tour.inside f sc body) = placeholderNames (body (f :: sc)) := by
  simp [placeholderNames]

@[simp] lemma placeholderNames_leaves (n : Nat) (sc : Scopes) :
    placeholderNames (Tour.leaves n sc) = [] := by
  simp [placeholderNames]

@[simp] lemma placeholderNames_again (asOperand : Bool) (s : Statement) (sc : Scopes) :
    placeholderNames (Tour.again asOperand (.statement s sc)) = [] := by
  simp [placeholderNames]

/-- The same name, and values of which one may stand for the other. -/
def Occurrence.Like (V : String → Option Scalar → Option Scalar → Prop) (o o' : Occurrence) : Prop :=
  o.name = o'.name ∧ V o.name o.value o'.value

section
variable {V : String → Option Scalar → Option Scalar → Prop} {base base' : Scopes}

lemma Event.Like.placeholder {e e' : Event} (h : Event.Like V base base' e e') :
    Option.Rel (Occurrence.Like V) (Report.placeholder e) (Report.placeholder e') := by
  cases h with
  | value role he hsc =>
    cases he with
    | parameter hv => exact .some ⟨rfl, hv⟩
    | _ => exact .none
  | _ => exact .none

lemma Alongside.placeholders {es es' : List Event} (h : Alongside V base base' es es') :
    List.Forall₂ (Occurrence.Like V) (placeholders es) (placeholders es') := by
  induction h with
  | nil => exact .nil
  | cons he _ ih =>
    rw [placeholders_cons, placeholders_cons]
    exact List.rel_append (forall₂_toList he.placeholder) ih

lemma Alongside.placeholderNames_eq {es es' : List Event} (h : Alongside V base base' es es') :
    placeholderNames es = placeholderNames es' := by
  have hnames : List.Forall₂ (· = ·) (placeholderNames es) (placeholderNames es') :=
    List.rel_map (fun _ _ ho => ho.1) h.placeholders
  exact List.forall₂_eq_eq_eq ▸ hnames

end

end SqlLoom
