import NeutralSql.Compile.Template

/-!
# How templates are written

The text of a template is a lead followed by its placeholders, each with the gap behind
it. Lead and gaps come from the template alone: the style of the placeholders and the
values bound before only enter through the tokens.
-/

namespace NeutralSql.Template

/-- A list of templates one after the other has the values of each in turn. -/
@[simp] theorem values_append (first second : Template) :
    values (first ++ second) = first.values ++ second.values := by
  induction first with
  | nil => rfl
  | cons piece rest inductionHypothesis =>
    cases piece with
    | text content => exact inductionHypothesis
    | slot value => exact congrArg (value :: ·) inductionHypothesis

@[simp] theorem values_nil : values [] = [] :=
  rfl

@[simp] theorem values_text (content : String) : (text content).values = [] :=
  rfl

@[simp] theorem values_slot (value : Value) : (slot value).values = [value] :=
  rfl

/-- Templates made from the items of a list have the values of each in turn. -/
@[simp] theorem values_flatMap {α : Type} (items : List α) (template : α → Template) :
    values (items.flatMap template) = items.flatMap fun item => (template item).values := by
  induction items with
  | nil => rfl
  | cons item rest inductionHypothesis =>
    rw [List.flatMap_cons, values_append, inductionHypothesis, List.flatMap_cons]

/-- A separator has no values. -/
@[simp] theorem values_separated (separator : String) (templates : List Template) :
    (separated separator templates).values = templates.flatMap values := by
  cases templates with
  | nil => rfl
  | cons first rest => simp [separated]

/-- The text before the first slot. -/
def lead : Template → String
  | [] => ""
  | .text content :: rest => content ++ lead rest
  | .slot _ :: _ => ""

/-- The text behind each slot, up to the next one. -/
def gaps : Template → List String
  | [] => []
  | .text _ :: rest => gaps rest
  | .slot _ :: rest => lead rest :: gaps rest

/-- There is a gap for each value. -/
@[simp] theorem length_gaps (template : Template) :
    template.gaps.length = template.values.length := by
  induction template with
  | nil => rfl
  | cons piece rest inductionHypothesis =>
    cases piece with
    | text content => exact inductionHypothesis
    | slot value => exact congrArg (· + 1) inductionHypothesis

/-- The text of a template is its lead, and behind it the placeholders in order, each with
the gap that follows it. -/
theorem write_eq (style : PlaceholderStyle) (bound : Nat) (template : Template) :
    template.write style bound =
      template.lead ++ String.join
        (template.gaps.mapIdx fun index gap => style.token (bound + index + 1) ++ gap) := by
  induction template generalizing bound with
  | nil => rfl
  | cons piece rest inductionHypothesis =>
    cases piece with
    | text content =>
      rw [write, inductionHypothesis, lead, gaps, String.append_assoc]
    | slot value =>
      rw [write, inductionHypothesis, lead, gaps, List.mapIdx_cons, String.join_cons,
        String.empty_append]
      simp only [Nat.add_zero, Nat.add_right_comm bound, ← Nat.add_assoc, String.append_assoc]

/-- The second of two templates goes on counting where the first one has stopped. -/
theorem write_append (style : PlaceholderStyle) (bound : Nat) (first second : Template) :
    write style bound (first ++ second) =
      first.write style bound ++ second.write style (bound + first.values.length) := by
  induction first generalizing bound with
  | nil => exact String.empty_append.symm
  | cons piece rest inductionHypothesis =>
    cases piece with
    | text content =>
      rw [List.cons_append, write, inductionHypothesis, write, values, String.append_assoc]
    | slot value =>
      rw [List.cons_append, write, inductionHypothesis, write, values, List.length_cons,
        String.append_assoc, Nat.add_assoc, Nat.add_comm 1]

/-- Text behind a template is written as it is. -/
theorem write_append_text (style : PlaceholderStyle) (bound : Nat) (template : Template)
    (content : String) :
    write style bound (template ++ text content) = template.write style bound ++ content := by
  rw [write_append, text, write, write, String.append_empty]

/-- Templates with the same number of slots are written with the separator between them, and
each of them skips the numbers of those in front. -/
theorem write_separated (style : PlaceholderStyle) (separator : String)
    {templates : List Template} {count : Nat}
    (uniform : ∀ template ∈ templates, template.values.length = count) (bound : Nat) :
    (separated separator templates).write style bound =
      String.intercalate separator
        (templates.mapIdx fun index template => template.write style (bound + index * count)) := by
  induction templates generalizing bound with
  | nil => rfl
  | cons first rest inductionHypothesis =>
    rw [List.forall_mem_cons] at uniform
    cases rest with
    | nil => simp [separated]
    | cons second others =>
      have unfolded : separated separator (first :: second :: others) =
          first ++ (text separator ++ separated separator (second :: others)) := by
        simp [separated]
      have shifted : ∀ index, bound + count + index * count = bound + (index + 1) * count :=
        fun index => by rw [Nat.succ_mul, Nat.add_assoc, Nat.add_comm count]
      rw [unfolded, write_append, write_append, uniform.1, values_text, List.length_nil,
        Nat.add_zero, inductionHypothesis uniform.2, List.mapIdx_cons (a := first),
        String.intercalate_cons_of_ne_nil (by simp)]
      simp only [shifted, Nat.zero_mul, Nat.add_zero, text, write, String.append_assoc,
        String.append_empty]

end NeutralSql.Template
