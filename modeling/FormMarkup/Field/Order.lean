import FormMarkup.Field.Basic

namespace FormMarkup

def ascending {α : Type} (key : α → Int) (xs : List α) : List α :=
  xs.mergeSort fun x y => decide (key x ≤ key y)

def Field.orderChoices : Field → Field
  | .checkbox g => .checkbox { g with choices := ascending (·.order) g.choices }
  | .radio g => .radio { g with choices := ascending Choice.order g.choices }
  | f => f

def orderFields (fields : List Field) : List Field :=
  ascending Field.order (fields.map Field.orderChoices)

theorem ascending_perm {α : Type} (key : α → Int) (xs : List α) :
    (ascending key xs).Perm xs :=
  List.mergeSort_perm xs _

theorem Field.order_orderChoices (f : Field) : f.orderChoices.order = f.order := by
  cases f <;> rfl

end FormMarkup
